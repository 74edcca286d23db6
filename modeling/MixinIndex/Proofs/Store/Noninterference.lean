import Mathlib.Data.List.Forall2
import MixinIndex.Proofs.Store.Separation

/-!
# Projects do not interfere

What is done for a project, and what is known of it, does not depend on what is done for others
meanwhile: all calls on other projects may be struck out of a session, and all changes of sources
and declarations that are not its own.

## Main definitions

* `Realm.only`: the moves that are left when all calls are struck out that have nothing to do with a
  realm
* `Session.Mirrors`: a session, and what is left of it
* `Session.ShowsSame`: the same is known of a project, and its calls have returned the same

## Main statements

* `Realm.begins_only`: which calls are left
* `Session.Mirrors.step`, `Session.Mirrors.run`: one move, several moves
* `Session.showsSame_only`: projects do not interfere

## Design notes

With fewer calls, those that are left have other numbers, and so have the registrations that they
make.  The numbers of calls are counted among the calls left; the numbers of registrations
correspond to each other by a relation that grows along the run.

Nothing is required of the bindings of other projects.  If one of them shares a source with the
project, changes of this source are not struck out.

A registration is answered with the names of all projects.  Such an answer is compared by what it
says about the one project.
-/

namespace MixinIndex

variable {m : Realm} {paired : Generation → Generation → Prop}

/-! ### Calls that are left -/

section Lists

variable {α β : Type} {R : α → β → Prop} {p : α → Bool} {l : List α} {l' : List β} {i : Nat} {a : α}

/-- Of a list and the elements of it that are left, corresponding elements are put in place of each
other.  The place among those left is counted. -/
theorem forall₂_filter_set (related : List.Forall₂ R (l.filter p) l') (here : l[i]? = some a)
    (left : p a = true) : ∃ a', l'[(l.take i).countP p]? = some a' ∧ R a a' ∧
      ∀ b b', p b = true → R b b' →
        List.Forall₂ R ((l.set i b).filter p) (l'.set ((l.take i).countP p) b') := by
  induction l generalizing i l' with
  | nil => cases here
  | cons x l ih =>
      cases i with
      | zero =>
          obtain rfl := Option.some.inj here
          rw [List.filter_cons_of_pos left] at related
          obtain ⟨a', rest, same, others, rfl⟩ := List.forall₂_cons_left_iff.1 related
          refine ⟨a', rfl, same, fun b b' leftB sameB => ?_⟩
          rw [List.set_cons_zero, List.filter_cons_of_pos leftB]
          exact .cons sameB others
      | succ i =>
          rw [List.getElem?_cons_succ] at here
          by_cases first : p x = true
          · rw [List.filter_cons_of_pos first] at related
            obtain ⟨x', rest, same, others, rfl⟩ := List.forall₂_cons_left_iff.1 related
            obtain ⟨a', found, sameA, put⟩ := ih others here
            rw [List.take_succ_cons, List.countP_cons_of_pos first]
            refine ⟨a', found, sameA, fun b b' leftB sameB => ?_⟩
            rw [List.set_cons_succ, List.filter_cons_of_pos first]
            exact .cons same (put b b' leftB sameB)
          · rw [List.filter_cons_of_neg first] at related
            obtain ⟨a', found, sameA, put⟩ := ih related here
            rw [List.take_succ_cons, List.countP_cons_of_neg first]
            refine ⟨a', found, sameA, fun b b' leftB sameB => ?_⟩
            rw [List.set_cons_succ, List.filter_cons_of_neg first]
            exact put b b' leftB sameB

/-- An element that is struck out may be put in place of another. -/
theorem filter_set_of_neg (here : l[i]? = some a) (out : p a = false) {b : α}
    (outB : p b = false) : (l.set i b).filter p = l.filter p := by
  induction l generalizing i with
  | nil => rfl
  | cons x l ih =>
      cases i with
      | zero =>
          obtain rfl := Option.some.inj here
          rw [List.set_cons_zero, List.filter_cons_of_neg (by simp [outB]),
            List.filter_cons_of_neg (by simp [out])]
      | succ i =>
          rw [List.getElem?_cons_succ] at here
          rw [List.set_cons_succ, List.filter_cons, List.filter_cons, ih here]

end Lists

namespace Realm

/-- What is left of a move when all calls are struck out that have nothing to do with a realm, by
the requests of the calls so far. -/
def keep (m : Realm) (begun : List Operation) : Move → List Move
  | .call operation => if m.concerns operation then [.call operation] else []
  | .resume i =>
    match begun[i]? with
    | some operation =>
      if m.concerns operation then [.resume ((begun.take i).countP m.concerns)] else []
    | none => []
  | .outside w => [.outside w]

/-- The requests of the calls that begin in a move. -/
def begins : Move → List Operation
  | .call operation => [operation]
  | .resume _ | .outside _ => []

/-- The moves that are left, by the requests of the calls so far. -/
def only (m : Realm) : List Operation → List Move → List Move
  | _, [] => []
  | begun, move :: moves => m.keep begun move ++ m.only (begun ++ begins move) moves

/-- The calls that are left are those that have to do with the realm, in order. -/
theorem begins_only (m : Realm) (begun : List Operation) (moves : List Move) :
    (m.only begun moves).flatMap begins = (moves.flatMap begins).filter m.concerns := by
  have kept (begun : List Operation) (move : Move) :
      (m.keep begun move).flatMap begins = (begins move).filter m.concerns := by
    cases move with
    | call operation =>
        rw [keep]
        by_cases concerned : m.concerns operation = true
        · rw [if_pos concerned, begins, List.filter_cons_of_pos concerned]
          rfl
        · rw [if_neg concerned, begins, List.filter_cons_of_neg concerned]
          rfl
    | resume i =>
        rw [keep]
        split
        · split <;> rfl
        · rfl
    | outside w => rfl
  induction moves generalizing begun with
  | nil => rfl
  | cons move moves ih =>
      rw [only, List.flatMap_append, kept, ih, List.flatMap_cons, List.filter_append]

/-- What is left of the first moves comes first. -/
theorem only_prefix (m : Realm) (begun : List Operation) (moves later : List Move) :
    m.only begun moves <+: m.only begun (moves ++ later) := by
  induction moves generalizing begun with
  | nil => exact List.nil_prefix
  | cons move moves ih => exact (List.prefix_append_right_inj _).2 (ih _)

end Realm

namespace Session

variable {s t : Session}

/-- Nothing is done but that something is recorded. -/
structure OnlyNoted (s s' : Session) : Prop where
  workspace : s'.workspace = s.workspace
  calls : s'.calls = s.calls

namespace OnlyNoted

theorem refl (s : Session) : s.OnlyNoted s := ⟨rfl, rfl⟩

theorem lookup (s : Session) (lookup : Lookup) : s.OnlyNoted (s.noteLookup lookup) := ⟨rfl, rfl⟩

theorem reading (s : Session) (reading : Reading) : s.OnlyNoted (s.noteReading reading) :=
  ⟨rfl, rfl⟩

end OnlyNoted

/-- The requests of all calls. -/
def operations (s : Session) : List Operation := s.calls.map (·.operation)

/-- A session, and what is left of it when all calls are struck out that have nothing to do with a
realm. -/
structure Mirrors (m : Realm) (paired : Generation → Generation → Prop) (s t : Session) :
    Prop where
  workspace : s.workspace.Mirrors m paired t.workspace
  calls : List.Forall₂ (Call.Mirrors m paired) (s.calls.filter m.concernsCall) t.calls
  foreign : ∀ call ∈ s.calls, m.concernsCall call = false →
    call.work.isSuspended = true → call.IsForeign m s.workspace

namespace Mirrors

/-- A call of the realm begins. -/
theorem begin (h : s.Mirrors m paired t) {operation : Operation}
    (concerned : m.concerns operation = true)
    (own : ∀ b, operation = .register m.project b → b.Within m) :
    ∃ paired', (s.begin operation).Mirrors m paired' (t.begin operation) := by
  obtain ⟨paired', more, workspace, keeps, call⟩ := operation.mirrors h.workspace concerned own
  have left : m.concernsCall ⟨operation, none, (operation.work.advance s.workspace).1⟩ = true :=
    concerned
  refine ⟨paired', workspace, ?_, fun other member foreign suspended => ?_⟩
  · show List.Forall₂ _ ((s.calls ++ [_]).filter _) (t.calls ++ [_])
    rw [List.filter_append, List.filter_cons_of_pos left]
    exact List.rel_append (h.calls.imp fun _ _ same => same.mono more) (.cons call .nil)
  · rcases List.mem_append.1 member with old | new
    · exact (h.foreign other old foreign suspended).stable keeps
    · rw [List.mem_singleton.1 new, left] at foreign
      cases foreign

/-- A call that has nothing to do with the realm begins. -/
theorem begin_foreign (h : s.Mirrors m paired t) {operation : Operation}
    (foreign : m.concerns operation = false) : (s.begin operation).Mirrors m paired t := by
  obtain ⟨spares, keeps, isForeign⟩ := operation.spares foreign s.workspace
  have struck : m.concernsCall ⟨operation, none, (operation.work.advance s.workspace).1⟩ = false :=
    foreign
  refine ⟨h.workspace.spared spares, ?_, fun other member foreignOther suspended => ?_⟩
  · show List.Forall₂ _ ((s.calls ++ [_]).filter _) t.calls
    rw [List.filter_append, List.filter_cons_of_neg (by rw [struck]; exact Bool.false_ne_true),
      List.filter_nil, List.append_nil]
    exact h.calls
  · rcases List.mem_append.1 member with old | new
    · exact (h.foreign other old foreignOther suspended).stable keeps
    · rw [List.mem_singleton.1 new] at suspended ⊢
      exact isForeign suspended

/-- A call of the realm goes on, after something may have been recorded. -/
theorem proceed (h : s.Mirrors m paired t) {s' t' : Session} (noted : s.OnlyNoted s')
    (noted' : t.OnlyNoted t') {operation : Operation} {i : Nat} {old : Option Generation}
    {before : Work Answer} (here : s.calls[i]? = some ⟨operation, old, before⟩)
    (concerned : m.concerns operation = true) (request : operation.isEdit = false)
    {pair : Pairing} (isPaired : ∀ p ∈ pair, paired p.1 p.2)
    {work work' : Work Answer} (alike : work.Alike m (Operation.SaysSame m) work' pair)
    (bound bound' : Option Generation) :
    (s'.proceed i ⟨operation, bound, work⟩).Mirrors m paired
      (t'.proceed ((s.calls.take i).countP m.concernsCall) ⟨operation, bound', work'⟩) := by
  obtain ⟨mirrors, keeps, rest⟩ := h.workspace.advance isPaired alike
  obtain ⟨-, -, -, put⟩ := forall₂_filter_set h.calls here concerned
  have left : m.concernsCall ⟨operation, bound, (work.advance s.workspace).1⟩ = true := concerned
  unfold Session.proceed
  rw [noted.workspace, noted.calls, noted'.workspace, noted'.calls]
  refine ⟨mirrors, put _ _ left ⟨rfl, fun _ => request, pair, isPaired, rest⟩, ?_⟩
  intro other member foreign suspended
  rcases List.mem_or_eq_of_mem_set member with earlier | rfl
  · exact (h.foreign other earlier foreign suspended).stable keeps
  · rw [left] at foreign
    cases foreign

/-- A call of the realm goes on, and so does the same call in what is left. -/
theorem resume (h : s.Mirrors m paired t) {i : Nat} {call : Call}
    (here : s.calls[i]? = some call) (concerned : m.concernsCall call = true) :
    (s.resume i call).Mirrors m paired
      (t.step (.resume ((s.calls.take i).countP m.concernsCall))) := by
  obtain ⟨call', here', same, -⟩ := forall₂_filter_set h.calls here concerned
  rw [step_resume here']
  obtain ⟨operation, bound, work⟩ := call
  obtain ⟨operation', bound', work'⟩ := call'
  obtain ⟨named, request, pair, isPaired, alike⟩ := same
  obtain rfl : operation' = operation := named
  cases alike with
  | done | look | change => exact h
  | resolve alike =>
      obtain ⟨found, isFound, inForce, inForce'⟩ := h.workspace.exists_current?
      show (Session.proceed _ i _).Mirrors m paired (Session.proceed _ _ _)
      rw [inForce, inForce']
      exact h.proceed (.lookup s _) (.lookup t _) here concerned (request rfl) isFound
        (alike found) _ _
  | read own alike =>
      show (Session.proceed _ i _).Mirrors m paired (Session.proceed _ _ _)
      rw [h.workspace.read own]
      exact h.proceed (.reading s _) (.reading t _) here concerned (request rfl) isPaired
        (alike _) _ _
  | @wait _ ready ready' next next' same alike =>
      show (if ready s.workspace then Session.proceed _ i _ else s).Mirrors m paired
        (if ready' t.workspace then Session.proceed _ _ _ else t)
      rw [same ⟨paired, h.workspace, isPaired⟩]
      split
      · exact h.proceed (.refl s) (.refl t) here concerned (request rfl) isPaired alike _ _
      · exact h
  | restart =>
      have anew := Operation.alike (request rfl)
        (Operation.named_of_concerns concerned (request rfl))
      refine h.proceed (.refl s) (.refl t) here concerned (request rfl) ?_ anew _ _
      rintro _ ⟨⟩

/-- A call of another project goes on, after something may have been recorded. -/
theorem proceed_foreign (h : s.Mirrors m paired t) {s' : Session} (noted : s.OnlyNoted s')
    {i : Nat} {old call : Call} (here : s.calls[i]? = some old)
    (struck : m.concernsCall old = false) (struck' : m.concernsCall call = false)
    (goesOn : call.IsForeign m s.workspace) : (s'.proceed i call).Mirrors m paired t := by
  obtain ⟨spares, keeps, rest⟩ := goesOn.advance
  unfold Session.proceed
  rw [noted.workspace, noted.calls]
  refine ⟨h.workspace.spared spares, ?_, fun other member foreign suspended => ?_⟩
  · have out : m.concernsCall { call with work := (call.work.advance s.workspace).1 } = false :=
      struck'
    show List.Forall₂ _ ((s.calls.set i _).filter _) t.calls
    rw [filter_set_of_neg here struck out]
    exact h.calls
  · rcases List.mem_or_eq_of_mem_set member with earlier | rfl
    · exact (h.foreign other earlier foreign suspended).stable keeps
    · exact rest

/-- A call goes on that has nothing to do with the realm. -/
theorem resume_foreign (h : s.Mirrors m paired t) {i : Nat} {call : Call}
    (here : s.calls[i]? = some call) (struck : m.concernsCall call = false) :
    (s.resume i call).Mirrors m paired t := by
  have isForeign := h.foreign call (List.mem_of_getElem? here) struck
  obtain ⟨operation, bound, work⟩ := call
  cases work with
  | done | look | change => exact h
  | resolve project next =>
      obtain ⟨other, found, different, works⟩ := isForeign rfl
      refine h.proceed_foreign (.lookup s _) here struck struck ?_
      cases works.work with
      | resolve alike =>
          refine ⟨other, s.workspace.current? other, different, works.request, ?_, ?_⟩
          · exact fun g inForce => s.workspace.registry.registered inForce
          · show (next (s.workspace.current? other)).Alike _ _ (next (s.workspace.current? other)) _
            cases s.workspace.current? other with
            | none => exact alike none
            | some g => exact alike (some (g, g))
  | read source path next =>
      obtain ⟨other, found, different, works⟩ := isForeign rfl
      refine h.proceed_foreign (.reading s _) here struck struck ?_
      cases works.work with
      | read own alike =>
          exact ⟨other, found, different, works.request, works.registered, alike _⟩
  | wait ready next =>
      obtain ⟨other, found, different, works⟩ := isForeign rfl
      show (if ready s.workspace then Session.proceed _ i _ else s).Mirrors m paired t
      split
      · refine h.proceed_foreign (.refl s) here struck struck ?_
        cases works.work with
        | wait same alike =>
            exact ⟨other, found, different, works.request, works.registered, alike⟩
      · exact h
  | restart =>
      obtain ⟨other, found, different, works⟩ := isForeign rfl
      exact h.proceed_foreign (.refl s) here struck struck
        (Operation.isForeign works.request struck s.workspace none)

end Mirrors

/-! ### One move, several moves -/

theorem operations_proceed {s' : Session} (noted : s.OnlyNoted s') {i : Nat} {old call : Call}
    (here : s.calls[i]? = some old) (same : call.operation = old.operation) :
    (s'.proceed i call).operations = s.operations := by
  have listed : s.operations[i]? = some old.operation := by
    rw [operations, List.getElem?_map, here]
    rfl
  obtain ⟨inside, found⟩ := List.getElem?_eq_some_iff.1 listed
  show (s'.calls.set i _).map _ = s.operations
  rw [noted.calls, List.map_set]
  show s.operations.set i call.operation = s.operations
  rw [same, ← found, List.set_getElem_self]

theorem operations_resume {i : Nat} {call : Call} (here : s.calls[i]? = some call) :
    (s.resume i call).operations = s.operations := by
  obtain ⟨operation, bound, work⟩ := call
  cases work with
  | done | look | change => rfl
  | resolve project next => exact operations_proceed (.lookup s _) here rfl
  | read source path next => exact operations_proceed (.reading s _) here rfl
  | wait ready next =>
      show (if ready s.workspace then Session.proceed _ i _ else s).operations = _
      split
      · exact operations_proceed (.refl s) here rfl
      · rfl
  | restart => exact operations_proceed (.refl s) here rfl

/-- Calls keep their requests, and a call that begins is the last. -/
theorem operations_step (s : Session) (move : Move) :
    (s.step move).operations = s.operations ++ Realm.begins move := by
  cases move with
  | call operation => exact List.map_append
  | resume i =>
      rw [Realm.begins, List.append_nil]
      cases here : s.calls[i]? with
      | none => rw [step_resume_of_none here]
      | some call => rw [step_resume here, operations_resume here]
  | outside w => exact (List.append_nil _).symm

namespace Mirrors

/-- After a move, a session and what is left of it show the same again. -/
theorem step (h : s.Mirrors m paired t) (move : Move)
    (own : ∀ b, move = .call (.register m.project b) → b.Within m) :
    ∃ paired', (s.step move).Mirrors m paired' (t.run (m.keep s.operations move)) := by
  cases move with
  | call operation =>
      rw [Realm.keep]
      by_cases concerned : m.concerns operation = true
      · rw [if_pos concerned]
        exact h.begin concerned fun b same => own b (congrArg Move.call same)
      · rw [if_neg concerned]
        exact ⟨paired, h.begin_foreign (by simpa using concerned)⟩
  | resume i =>
      rw [Realm.keep]
      have listed : s.operations[i]? = s.calls[i]?.map (·.operation) := List.getElem?_map
      cases here : s.calls[i]? with
      | none =>
          rw [step_resume_of_none here, listed, here]
          exact ⟨paired, h⟩
      | some call =>
          rw [step_resume here, listed, here]
          show ∃ paired', (s.resume i call).Mirrors m paired' (t.run (if m.concerns call.operation
            then [.resume ((s.operations.take i).countP m.concerns)] else []))
          have counted : (s.operations.take i).countP m.concerns =
              (s.calls.take i).countP m.concernsCall := by
            rw [operations, ← List.map_take, List.countP_map]
            rfl
          by_cases concerned : m.concerns call.operation = true
          · rw [if_pos concerned, counted]
            exact ⟨paired, h.resume here concerned⟩
          · rw [if_neg concerned]
            exact ⟨paired, h.resume_foreign here (by simpa [Realm.concernsCall] using concerned)⟩
  | outside w =>
      refine ⟨paired, h.workspace.outside w, h.calls, fun call member foreign suspended => ?_⟩
      exact (h.foreign call member foreign suspended).stable fun g r known => ⟨r, known, rfl⟩

/-- So they do after several moves. -/
theorem run (h : s.Mirrors m paired t) (moves : List Move)
    (own : ∀ b, .call (.register m.project b) ∈ moves → b.Within m) :
    ∃ paired', (s.run moves).Mirrors m paired' (t.run (m.only s.operations moves)) := by
  induction moves generalizing s t paired with
  | nil => exact ⟨paired, h⟩
  | cons move moves ih =>
      obtain ⟨paired', after⟩ := h.step move fun b same => own b (same ▸ List.mem_cons_self)
      obtain ⟨paired'', rest⟩ := ih after fun b member => own b (List.mem_cons_of_mem _ member)
      have inParts (first second : List Move) :
          t.run (first ++ second) = (t.run first).run second := List.foldl_append
      refine ⟨paired'', ?_⟩
      rw [operations_step] at rest
      rw [Realm.only, inParts]
      exact rest

theorem start (m : Realm) (w : Workspace) :
    (Session.start w).Mirrors m (fun _ _ => False) (Session.start w) where
  workspace :=
    { config := rfl
      disk := rfl
      source := fun _ _ => rfl
      catalogue := fun _ _ => rfl
      registration := False.elim
      unique := fun impossible _ => impossible.elim
      current := Or.inl ⟨Std.ExtTreeMap.getElem?_empty, Std.ExtTreeMap.getElem?_empty⟩ }
  calls := .nil
  foreign := fun _ member => absurd member List.not_mem_nil

end Mirrors

/-! ### Projects do not interfere -/

/-- The calls that have to do with a realm, with what each has returned about its project. -/
def results (s : Session) (m : Realm) : List (Operation × Option Answer) :=
  (s.calls.filter m.concernsCall).map (·.report m)

/-- The same is known of a project in two sessions, and its calls have returned the same. -/
structure ShowsSame (m : Realm) (s t : Session) : Prop where
  results : t.results m = s.results m
  /-- The registration in force, with its index and all else that was built for it. -/
  registration :
    t.workspace.currentRegistration? m.project = s.workspace.currentRegistration? m.project
  phase : t.workspace.phase m.project = s.workspace.phase m.project
  environment : t.workspace.environment m.project = s.workspace.environment m.project
  tryMixins : ∀ target,
    t.workspace.tryMixins m.project target = s.workspace.tryMixins m.project target

theorem Mirrors.showsSame (h : s.Mirrors m paired t) : s.ShowsSame m t where
  registration := h.workspace.currentRegistration?
  phase := by rw [Workspace.phase, h.workspace.currentRegistration?, Workspace.phase]
  environment := by
    rw [Workspace.environment, h.workspace.currentRegistration?, Workspace.environment]
  tryMixins := by
    intro target
    rw [Workspace.tryMixins, h.workspace.currentRegistration?, Workspace.tryMixins]
  results := by
    -- all calls that are left have to do with the realm
    have left : List.Forall₂ (Call.Mirrors m paired)
        ((s.calls.filter m.concernsCall).filter m.concernsCall)
        (t.calls.filter m.concernsCall) := by
      refine List.rel_filter (fun call call' same => ?_) h.calls
      exact iff_of_eq (congrArg (· = true) same.concernsCall.symm)
    simp only [List.filter_filter, Bool.and_self] at left
    unfold Session.results
    rw [← List.forall₂_eq_eq_eq, List.forall₂_map_left_iff, List.forall₂_map_right_iff]
    exact (left.imp fun call call' same => same.report).flip

/-- Projects do not interfere.  After any moves, a project shows the same, and its calls have
returned the same, as after those moves that are left when all calls on other projects are struck
out, and all changes of sources and declarations that are not its own.  With more moves, those that
are left go on where these end. -/
theorem showsSame_only (m : Realm) (w : Workspace) (moves later : List Move)
    (own : ∀ b, .call (.register m.project b) ∈ moves → b.Within m) :
    ((start w).run moves).ShowsSame m ((start w).run (m.only [] moves)) ∧
      m.only [] moves <+: m.only [] (moves ++ later) := by
  obtain ⟨paired, mirrors⟩ := (Mirrors.start m w).run moves own
  exact ⟨mirrors.showsSame, m.only_prefix [] moves later⟩

/-- Two projects, each with a source of its own that has one config. -/
def neighbours : Workspace where
  sources := .ofList
    [("s", Source.memory "s" (.ofList
      [("fabric.mod.json", "\x7b\"schemaVersion\": 1, \"id\": \"m\", \"mixins\": [\"c\"]\x7d"),
        ("c", "\x7b\"package\": \"q\", \"mixins\": []\x7d")])),
      ("n", Source.memory "n" (.ofList
        [("fabric.mod.json",
            "\x7b\"schemaVersion\": 1, \"id\": \"n\", \"mixins\": [\"c\"]\x7d"),
          ("c", "\x7b\"package\": \"q\", \"mixins\": []\x7d")]))]

/-- The second project is registered before the first, asked for while the first is built, and
registered anew; its files change. -/
def interleaved : List Move :=
  [.call (.register "o" ⟨"n", [], "e"⟩), .call (.register "p" ⟨"s", [], "d"⟩),
    .call (.index "o"), .call (.index "p"), .resume 2, .resume 3, .resume 2,
    .call (.register "o" ⟨"n", [], "e"⟩), .resume 3, .call (.removeFile "n" "c"), .resume 2,
    .resume 3, .call (.removeProject "o")]

/-- The first project, with its source and declarations. -/
def first : Realm := ⟨"p", (· == "s"), (· == "d")⟩

/-- The first project is built in between, as if the second one were not there. -/
theorem showsSame_only_neighbours :
    (∀ b, .call (.register first.project b) ∈ interleaved → b.Within first) ∧
      first.only [] interleaved = [.call (.register "p" ⟨"s", [], "d"⟩), .call (.index "p"),
        .resume 1, .resume 1, .resume 1] ∧
      ((start neighbours).run interleaved).workspace.phase "p" = .loaded ∧
      ((start neighbours).run interleaved).ShowsSame first ((start neighbours).run
        [.call (.register "p" ⟨"s", [], "d"⟩), .call (.index "p"), .resume 1, .resume 1,
          .resume 1]) := by
  have own : ∀ b, .call (.register first.project b) ∈ interleaved → b.Within first := by
    intro b member
    simp [interleaved, first] at member
    subst member
    exact ⟨by decide, by decide⟩
  exact ⟨own, rfl, by decide +kernel, (showsSame_only first neighbours interleaved [] own).1⟩

end Session

end MixinIndex
