import MixinIndex.Store.Session

/-!
# What moves do

A move of a session that is not possible does nothing.  All others leave registrations and calls as
they are, or do the work of one call at a stretch: of a new one, or of one that goes on from where
it was suspended.

## Main definitions

* `Call.GoesOn`: how a suspended call goes on
* `Session.Starts`: the call whose work a move does
* `Session.Moved`: all that a move does to workspace and calls

## Main statements

* `Session.moved`: every move is one of these
-/

namespace MixinIndex

/-- How a suspended call goes on: what it has asked of the workspace has been answered. -/
inductive Call.GoesOn (w : Workspace) : Call → Call → Prop
  | resolve (operation : Operation) (bound : Option Generation) (project : String)
      (next : Option Generation → Work Answer) :
      GoesOn w ⟨operation, bound, .resolve project next⟩
        ⟨operation, w.current? project, next (w.current? project)⟩
  | read (operation : Operation) (bound : Option Generation) (source path : String)
      (next : Except Failure String → Work Answer) :
      GoesOn w ⟨operation, bound, .read source path next⟩
        ⟨operation, bound, next (w.read source path)⟩
  | wait (operation : Operation) (bound : Option Generation) {ready : Workspace → Bool}
      (now : ready w = true) (next : Work Answer) :
      GoesOn w ⟨operation, bound, .wait ready next⟩ ⟨operation, bound, next⟩
  | restart (operation : Operation) (bound : Option Generation) :
      GoesOn w ⟨operation, bound, .restart⟩ ⟨operation, none, operation.work⟩

namespace Session

theorem getElem?_concat_ne {calls : List Call} {call : Call} {j : Nat} (other : calls.length ≠ j) :
    (calls ++ [call])[j]? = calls[j]? := by
  rcases Nat.lt_or_gt_of_ne other with outside | inside
  · rw [List.getElem?_eq_none (Nat.le_of_lt outside), List.getElem?_eq_none (by simp; omega)]
  · rw [List.getElem?_append_left inside]

variable {s : Session}

/-- The call whose work a move does, and its number. -/
inductive Starts (s : Session) : Move → Nat → Call → Prop
  | begins (operation : Operation) :
      Starts s (.call operation) s.calls.length ⟨operation, none, operation.work⟩
  | goesOn {i : Nat} {old call : Call} (here : s.calls[i]? = some old)
      (goesOn : old.GoesOn s.workspace call) : Starts s (.resume i) i call

/-- What a move does to workspace and calls. -/
inductive Moved (s : Session) (move : Move) (s' : Session) : Prop
  /-- The move is not possible. -/
  | still (workspace : s'.workspace = s.workspace) (calls : s'.calls = s.calls)
  /-- Nothing is done to registrations and calls. -/
  | outside (w : Workspace) (isOutside : move = .outside w)
      (config : s'.workspace.config = s.workspace.config)
      (registry : s'.workspace.registry = s.workspace.registry) (calls : s'.calls = s.calls)
  /-- The work of one call is done at a stretch. -/
  | stretch (i : Nat) (call : Call) (starts : s.Starts move i call)
      (workspace : s'.workspace = (call.work.advance s.workspace).2)
      (here : s'.calls[i]? = some { call with work := (call.work.advance s.workspace).1 })
      (others : ∀ j, i ≠ j → s'.calls[j]? = s.calls[j]?)

theorem Moved.refl (s : Session) (move : Move) : s.Moved move s := .still rfl rfl

/-- A call goes on, after something may have been recorded. -/
theorem moved_proceed {t : Session} (workspace : t.workspace = s.workspace)
    (calls : t.calls = s.calls) {i : Nat} {old call : Call} (here : s.calls[i]? = some old)
    (goesOn : old.GoesOn s.workspace call) : s.Moved (.resume i) (t.proceed i call) := by
  have inside : i < s.calls.length := (List.getElem?_eq_some_iff.1 here).1
  unfold proceed
  rw [workspace, calls]
  exact .stretch i call (.goesOn here goesOn) rfl (List.getElem?_set_self inside)
    fun j other => List.getElem?_set_ne other

theorem moved_resume {i : Nat} {call : Call} (here : s.calls[i]? = some call) :
    s.Moved (.resume i) (s.resume i call) := by
  obtain ⟨operation, bound, work⟩ := call
  cases work with
  | resolve project next =>
      have goesOn := Call.GoesOn.resolve (w := s.workspace) operation bound project next
      exact moved_proceed (s := s) (t := s.noteLookup ⟨operation, project, _⟩) rfl rfl here goesOn
  | read source path next =>
      have goesOn := Call.GoesOn.read (w := s.workspace) operation bound source path next
      exact moved_proceed (s := s) (t := s.noteReading ⟨bound, source, path, _⟩) rfl rfl here goesOn
  | wait ready next =>
      show s.Moved _ (if ready s.workspace then s.proceed i ⟨operation, bound, next⟩ else s)
      by_cases now : ready s.workspace = true
      · rw [if_pos now]
        exact moved_proceed rfl rfl here (.wait operation bound now next)
      · rw [if_neg now]
        exact .refl s _
  | restart => exact moved_proceed rfl rfl here (.restart ..)
  | done | look | change => exact .refl s _

/-- Whatever a move is, this is what it does. -/
theorem moved (s : Session) (move : Move) : s.Moved move (s.step move) := by
  cases move with
  | call operation =>
      exact .stretch s.calls.length _ (.begins operation) rfl List.getElem?_concat_length
        fun j other => getElem?_concat_ne other
  | resume i =>
      cases here : s.calls[i]? with
      | some call =>
          rw [step_resume here]
          exact moved_resume here
      | none =>
          rw [step_resume_of_none here]
          exact .refl s _
  | outside w => exact .outside w rfl rfl rfl rfl

end Session

end MixinIndex
