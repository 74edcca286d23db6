import MixinIndex.Store.Session

/-!
# Performed requests as sessions

A request is performed with a way of reading during which other requests may be performed.  All
this happens in a session too: the request is a call that stops at its readings, and what is
performed meanwhile are calls that begin and return while it is stopped.

## Main definitions

* `Session.Leads`: a session leads to another
* `Reader.IsRealized`: what a way of reading does happens in sessions

## Main statements

* `Session.ends_perform`: performing a request happens in a session
* `Reader.isRealized_readerWithin`: so do interruptions
* `Session.ends_run`: what `Workspace.run` does happens in a session
-/

namespace MixinIndex

namespace Session

/-- Some moves lead from one session to another, while the calls up to a number stand still. -/
def Leads (n : Nat) (s t : Session) : Prop :=
  ∃ moves, s.run moves = t ∧ ∀ j < n, t.calls[j]? = s.calls[j]?

namespace Leads

variable {n m : Nat} {s t u : Session}

theorem refl (n : Nat) (s : Session) : Leads n s s := ⟨[], rfl, fun _ _ => rfl⟩

theorem trans (h : Leads n s t) (h' : Leads n t u) : Leads n s u := by
  obtain ⟨first, rfl, still⟩ := h
  obtain ⟨second, rfl, still'⟩ := h'
  refine ⟨first ++ second, ?_, fun j below => (still' j below).trans (still j below)⟩
  rw [run, List.foldl_append]
  rfl

theorem mono (h : Leads n s t) (less : m ≤ n) : Leads m s t := by
  obtain ⟨moves, reached, still⟩ := h
  exact ⟨moves, reached, fun j below => still j (Nat.lt_of_lt_of_le below less)⟩

/-- A call goes on, after something may have been recorded. -/
theorem resume {i : Nat} {call after : Call} (here : s.calls[i]? = some call)
    (calls : t.calls = s.calls) (resumed : s.resume i call = t.proceed i after) :
    Leads i s (t.proceed i after) := by
  refine ⟨[.resume i], ?_, fun j below => ?_⟩
  · show s.step (.resume i) = _
    rw [step_resume here, resumed]
  · show (t.calls.set i _)[j]? = _
    rw [List.getElem?_set_ne (Nat.ne_of_gt below), calls]

/-- All but the registrations is changed from outside. -/
theorem outside {w : Workspace} (config : w.config = s.workspace.config)
    (registry : w.registry = s.workspace.registry) : Leads n s (s.become w) := by
  refine ⟨[.outside w], ?_, fun _ _ => rfl⟩
  show s.become { w with config := _, registry := _ } = _
  rw [← config, ← registry]

theorem getElem? (h : Leads n s t) {i : Nat} (below : i < n) : t.calls[i]? = s.calls[i]? := by
  obtain ⟨moves, -, still⟩ := h
  exact still i below

end Leads

end Session

/-- What a way of reading does happens in sessions, without a move of the calls that there are. -/
def Reader.IsRealized (read : Reader) : Prop :=
  ∀ (s : Session) (source path : String) (resource : Except Failure String) (w : Workspace),
    read source path s.workspace = some (resource, w) →
      ∃ t, Session.Leads s.calls.length s t ∧ t.workspace = w ∧ resource = w.read source path

namespace Session

/-- How a call stands at the end of an attempt. -/
def workAfter : Option Answer → Work Answer
  | some answer => .done answer
  | none => .restart

/-- A session leads to one with a given workspace, where a call stands at a given point. -/
def Ends (s : Session) (i : Nat) (operation : Operation) (work : Work Answer) (w : Workspace) :
    Prop :=
  ∃ t bound, Leads i s t ∧ t.workspace = w ∧ t.calls[i]? = some ⟨operation, bound, work⟩

theorem Ends.of_leads {s t : Session} {i : Nat} {operation : Operation} {work : Work Answer}
    {w : Workspace} (leads : Leads i s t) (ends : t.Ends i operation work w) :
    s.Ends i operation work w := by
  obtain ⟨u, bound, rest, reached, stands⟩ := ends
  exact ⟨u, bound, leads.trans rest, reached, stands⟩

variable {read : Reader} {i : Nat} (operation : Operation) {w : Workspace}

theorem getElem?_proceed (s : Session) {call : Call} (inside : i < s.calls.length)
    (stopped : call.work.advance s.workspace = (call.work, s.workspace)) :
    (s.proceed i call).calls[i]? = some call := by
  unfold proceed
  rw [stopped]
  exact List.getElem?_set_self inside

theorem lt_length_of_getElem? {s : Session} {call : Call} (here : s.calls[i]? = some call) :
    i < s.calls.length :=
  (List.getElem?_eq_some_iff.1 here).1

theorem ends_of_stopped (s : Session) {call : Call} (inside : i < s.calls.length)
    (stopped : call.work.advance s.workspace = (call.work, s.workspace)) :
    (s.proceed i call).Ends i call.operation call.work s.workspace := by
  refine ⟨s.proceed i call, call.bound, .refl _ _, ?_, s.getElem?_proceed inside stopped⟩
  show (call.work.advance s.workspace).2 = s.workspace
  rw [stopped]

/-- An attempt with a way of reading that happens in sessions. -/
theorem ends_attempt (realized : read.IsRealized) {result : Option Answer} (work : Work Answer)
    (s : Session) (bound : Option Generation) (inside : i < s.calls.length)
    (attempted : work.attempt read s.workspace = some (result, w)) :
    (s.proceed i ⟨operation, bound, work⟩).Ends i operation (workAfter result) w := by
  induction work generalizing s bound with
  | done answer =>
      obtain ⟨rfl, rfl⟩ := Prod.mk.inj (Option.some.inj attempted)
      exact s.ends_of_stopped inside rfl
  | restart =>
      obtain ⟨rfl, rfl⟩ := Prod.mk.inj (Option.some.inj attempted)
      exact s.ends_of_stopped inside rfl
  | look next ih => exact ih s.workspace s bound inside attempted
  | change f next ih =>
      exact ih { s with workspace := f s.workspace } bound inside attempted
  | resolve project next ih =>
      let stopped := s.proceed i ⟨operation, bound, .resolve project next⟩
      let found := s.workspace.current? project
      have here : stopped.calls[i]? = some ⟨operation, bound, .resolve project next⟩ :=
        s.getElem?_proceed inside rfl
      let noted := stopped.noteLookup ⟨operation, project, found⟩
      have rest := ih found noted found (lt_length_of_getElem? here) attempted
      exact rest.of_leads (.resume (t := noted) here rfl rfl)
  | read source path next ih =>
      rw [Work.attempt] at attempted
      cases found : read source path s.workspace with
      | none =>
          rw [found] at attempted
          cases attempted
      | some arrived =>
          obtain ⟨resource, v⟩ := arrived
          rw [found] at attempted
          -- the call stands at its reading while the reader acts
          let stopped := s.proceed i ⟨operation, bound, .read source path next⟩
          have here : stopped.calls[i]? = some ⟨operation, bound, .read source path next⟩ :=
            s.getElem?_proceed inside rfl
          obtain ⟨t, leads, rfl, rfl⟩ := realized stopped source path resource v found
          have standing : t.calls[i]? = some ⟨operation, bound, .read source path next⟩ :=
            (leads.getElem? (lt_length_of_getElem? here)).trans here
          let noted := t.noteReading ⟨bound, source, path, t.workspace.read source path⟩
          have rest := ih (t.workspace.read source path) noted bound
            (lt_length_of_getElem? standing) attempted
          have before := leads.mono (Nat.le_of_lt (lt_length_of_getElem? here))
          exact (rest.of_leads (.resume (t := noted) standing rfl rfl)).of_leads before
  | wait ready next ih =>
      rw [Work.attempt] at attempted
      by_cases now : ready s.workspace = true
      · rw [if_pos now] at attempted
        let stopped := s.proceed i ⟨operation, bound, .wait ready next⟩
        have here : stopped.calls[i]? = some ⟨operation, bound, .wait ready next⟩ :=
          s.getElem?_proceed inside rfl
        have rest := ih stopped bound (lt_length_of_getElem? here) attempted
        refine rest.of_leads (.resume here rfl ?_)
        show (if ready s.workspace then _ else _) = _
        rw [if_pos now]
      · rw [if_neg now] at attempted
        cases attempted

/-- A call that begins anew as often as is called for. -/
theorem ends_complete (realized : read.IsRealized) {answer : Answer} (attempts : Nat)
    (s : Session) (bound : Option Generation) (inside : i < s.calls.length)
    (completed : operation.work.complete read attempts s.workspace = some (answer, w)) :
    (s.proceed i ⟨operation, bound, operation.work⟩).Ends i operation (.done answer) w := by
  induction attempts generalizing s bound with
  | zero => cases completed
  | succ attempts ih =>
      rw [Work.complete] at completed
      cases attempted : operation.work.attempt read s.workspace with
      | none =>
          rw [attempted] at completed
          cases completed
      | some outcome =>
          rw [attempted] at completed
          obtain ⟨result, v⟩ := outcome
          have ends := ends_attempt operation realized operation.work s bound inside attempted
          cases result with
          | some found =>
              obtain ⟨rfl, rfl⟩ := Prod.mk.inj (Option.some.inj completed)
              exact ends
          | none =>
              obtain ⟨t, held, leads, rfl, stands⟩ := ends
              have rest := ih t none (lt_length_of_getElem? stands) completed
              exact (rest.of_leads (.resume stands rfl rfl)).of_leads leads

theorem begin_eq_proceed (s : Session) : s.begin operation =
    proceed { s with calls := s.calls ++ [⟨operation, none, operation.work⟩] } s.calls.length
      ⟨operation, none, operation.work⟩ := by
  simp [begin, proceed, become]

/-- Performing a request happens in a session. -/
theorem ends_perform (realized : read.IsRealized) (s : Session) {answer : Answer}
    (performed : s.workspace.perform read operation = some (answer, w)) :
    s.Ends s.calls.length operation (.done answer) w := by
  have inside : s.calls.length <
      (s.calls ++ [(⟨operation, none, operation.work⟩ : Call)]).length := by simp
  have ends := ends_complete operation realized _
    { s with calls := s.calls ++ [⟨operation, none, operation.work⟩] } none inside performed
  rw [← begin_eq_proceed] at ends
  refine ends.of_leads ⟨[.call operation], rfl, fun j below => ?_⟩
  show (s.calls ++ [_])[j]? = _
  exact List.getElem?_append_left below

end Session

/-! ### Interruptions -/

namespace Reader

theorem isRealized_readResource : IsRealized Workspace.readResource := by
  intro s source path resource w read
  obtain ⟨rfl, rfl⟩ := Prod.mk.inj (Option.some.inj read)
  exact ⟨s, .refl _ s, rfl, rfl⟩

/-- Performing several requests happens in a session. -/
theorem IsRealized.performAll {read : Reader} (realized : read.IsRealized)
    (operations : List Operation) (s : Session) {w : Workspace}
    (performed : Workspace.performAll read operations s.workspace = some w) :
    ∃ t, Session.Leads s.calls.length s t ∧ t.workspace = w := by
  induction operations generalizing s with
  | nil => exact ⟨s, .refl _ s, Option.some.inj performed⟩
  | cons operation operations ih =>
      rw [Workspace.performAll] at performed
      cases first : s.workspace.perform read operation with
      | none =>
          rw [first] at performed
          cases performed
      | some outcome =>
          obtain ⟨answer, v⟩ := outcome
          rw [first] at performed
          obtain ⟨t, bound, leads, rfl, stands⟩ :=
            Session.ends_perform operation realized s first
          have logged : Session.Leads s.calls.length t
              (t.become { t.workspace with log := t.workspace.log ++ [answer] }) :=
            .outside rfl rfl
          obtain ⟨u, rest, reached⟩ := ih (t.become _) performed
          have within : s.calls.length ≤ t.calls.length :=
            Nat.le_of_lt (Session.lt_length_of_getElem? stands)
          exact ⟨u, (leads.trans logged).trans (rest.mono within), reached⟩

theorem isRealized_readerWithin (depth : Nat) : IsRealized (Workspace.readerWithin depth) := by
  induction depth with
  | zero => exact isRealized_readResource
  | succ depth ih =>
      intro s source path resource w read
      rw [Workspace.readerWithin] at read
      dsimp only at read
      cases taken : Workspace.takeInterruption source path s.workspace.interruptions with
      | none =>
          rw [taken] at read
          exact isRealized_readResource s source path resource w read
      | some interruption =>
          obtain ⟨operations, interruptions⟩ := interruption
          rw [taken] at read
          obtain ⟨v, performed, arrived⟩ := Option.bind_eq_some_iff.1 read
          obtain ⟨rfl, rfl⟩ := Prod.mk.inj (Option.some.inj arrived)
          have begun : Session.Leads s.calls.length s
              (s.become { s.workspace with interruptions }) := .outside rfl rfl
          obtain ⟨t, rest, reached⟩ := ih.performAll operations (s.become _) performed
          exact ⟨t, begun.trans rest, reached, rfl⟩

end Reader

/-- What is run, with its interruptions, happens in a session. -/
theorem Session.ends_run (operation : Operation) (s : Session) {answer : Answer}
    {log : List Answer} {w : Workspace}
    (ran : s.workspace.run operation = some (answer, log, w)) :
    s.Ends s.calls.length operation (.done answer) w := by
  obtain ⟨⟨found, v⟩, performed, same⟩ := Option.map_eq_some_iff.1 ran
  obtain ⟨rfl, rest⟩ := Prod.mk.inj same
  obtain ⟨-, rfl⟩ := Prod.mk.inj rest
  have cleared : Session.Leads s.calls.length s (s.become { s.workspace with log := [] }) :=
    .outside rfl rfl
  have realized := Reader.isRealized_readerWithin s.workspace.interruptions.length
  exact (ends_perform operation realized (s.become _) performed).of_leads cleared

end MixinIndex
