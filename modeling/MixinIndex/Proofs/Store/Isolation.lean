import MixinIndex.Proofs.Store.Moves
import MixinIndex.Proofs.Store.Requests

/-!
# Registrations are isolated

Projects are registered anew and forgotten while calls for their earlier registrations are stopped
at readings.  Whatever the order: what a registration shows came to it from its own sources and
declarations, only calls that have found it in force change it, and an index that is returned is
that of the registration in force.

## Main definitions

* `Session.evidence`: what has come to which registration in a session
* `Session.Records`: what is recorded in a move
* `Session.Valid`: what holds of a session at every move
* `Session.Effect`: what a move can do
* `Session.Sourced`, `Session.KeepsApart`, `Session.ReturnsInForce`: the parts of isolation

## Main statements

* `Session.Valid.effect`: all that a move can do
* `Session.Valid.step`, `Session.Valid.run`: a session remains valid
* `Session.isolated`: registrations are isolated

## Design notes

The invariant speaks of evidence that is fixed beforehand and covers the whole session.  So work
that is safe for it remains so while the session goes on.
-/

namespace MixinIndex

/-! ### Evidence -/

/-- Evidence is part of other evidence. -/
structure Evidence.Within (E F : Evidence) : Prop where
  read : ∀ {g source path resource}, E.read g source path resource → F.read g source path resource
  given : ∀ {g text}, E.given g text → F.given g text
  declared : ∀ {g declarations type target}, E.declared g declarations type target →
    F.declared g declarations type target

namespace Evidence.Within

variable {E F G : Evidence}

theorem refl (E : Evidence) : E.Within E := ⟨id, id, id⟩

theorem trans (h : E.Within F) (h' : F.Within G) : E.Within G where
  read := fun read => h'.read (h.read read)
  given := fun given => h'.given (h.given given)
  declared := fun declared => h'.declared (h.declared declared)

end Evidence.Within

namespace Session

/-- What has come to registrations: the resources that calls have read for them, the texts of
events that have found them in force, and the targets that were declared since they were made. -/
def evidence (s : Session) : Evidence where
  read g source path resource := ⟨some g, source, path, resource⟩ ∈ s.readings
  given g text := ∃ lookup ∈ s.lookups, lookup.bound = some g ∧
    ∃ project, lookup.operation = .metadataChanged project text
  declared g declarations type target := ∃ w ∈ s.past, (w.registration? g).isSome = true ∧
    target ∈ w.targetsOf declarations type

/-- A call has found its registration by a lookup. -/
def Found (s : Session) (call : Call) : Prop :=
  ∀ g, call.bound = some g → ∃ project, ⟨call.operation, project, some g⟩ ∈ s.lookups

/-- What is recorded in a move: the registration in force that a call has looked up, or the
resource that it was about to read. -/
structure Records (s t : Session) : Prop where
  lookups : s.lookups ⊆ t.lookups
  readings : s.readings ⊆ t.readings
  past : s.past ⊆ t.past
  present : s.workspace ∈ s.past → t.workspace ∈ t.past
  newLookup : ∀ lookup ∈ t.lookups, lookup ∈ s.lookups ∨
    s.workspace.current? lookup.project = lookup.bound
  newReading : ∀ reading ∈ t.readings, reading ∈ s.readings ∨ ∃ call ∈ s.calls,
    call.bound = reading.bound ∧ ∃ next, call.work = .read reading.source reading.path next
  found : (∀ call ∈ s.calls, s.Found call) → ∀ call ∈ t.calls, t.Found call

namespace Records

variable {s t : Session}

theorem refl (s : Session) : s.Records s where
  lookups := fun _ member => member
  readings := fun _ member => member
  past := fun _ member => member
  present := id
  newLookup := fun _ => Or.inl
  newReading := fun _ => Or.inl
  found := id

/-- What has come to registrations once is not lost. -/
theorem evidence_within (h : s.Records t) : s.evidence.Within t.evidence where
  read := fun read => h.readings read
  given := by
    rintro g text ⟨lookup, member, found⟩
    exact ⟨lookup, h.lookups member, found⟩
  declared := by
    rintro g declarations type target ⟨w, member, named⟩
    exact ⟨w, h.past member, named⟩

theorem become (s : Session) (w : Workspace) : s.Records (s.become w) where
  lookups := fun _ member => member
  readings := fun _ member => member
  past := List.subset_append_left ..
  present := fun _ => List.mem_append_right _ List.mem_cons_self
  newLookup := fun _ => Or.inl
  newReading := fun _ => Or.inl
  found := id

/-- A call that is bound to nothing has nothing to have found. -/
theorem begin (s : Session) (operation : Operation) : s.Records (s.begin operation) where
  lookups := fun _ member => member
  readings := fun _ member => member
  past := List.subset_append_left ..
  present := fun _ => List.mem_append_right _ List.mem_cons_self
  newLookup := fun _ => Or.inl
  newReading := fun _ => Or.inl
  found := by
    intro found call member
    rcases List.mem_append.1 member with old | new
    · exact found call old
    · rw [List.mem_singleton.1 new]
      intro g impossible
      cases impossible

/-- A call goes on after something may have been recorded. -/
theorem proceed (h : s.Records t) (i : Nat) (call : Call)
    (found : (∀ call ∈ s.calls, s.Found call) → t.Found call) :
    s.Records (t.proceed i call) where
  lookups := h.lookups
  readings := h.readings
  past := fun _ member => List.mem_append_left _ (h.past member)
  present := fun _ => List.mem_append_right _ List.mem_cons_self
  newLookup := h.newLookup
  newReading := h.newReading
  found := by
    intro all other member
    rcases List.mem_or_eq_of_mem_set member with old | rfl
    · exact h.found all other old
    · exact found all

theorem noteLookup (s : Session) {lookup : Lookup}
    (inForce : s.workspace.current? lookup.project = lookup.bound) :
    s.Records (s.noteLookup lookup) where
  lookups := List.subset_append_left ..
  readings := fun _ member => member
  past := fun _ member => member
  present := id
  newLookup := by
    intro other member
    rcases List.mem_append.1 member with old | new
    · exact Or.inl old
    · rw [List.mem_singleton.1 new]
      exact Or.inr inForce
  newReading := fun _ => Or.inl
  found := by
    intro all call member g isBound
    obtain ⟨project, recorded⟩ := all call member g isBound
    exact ⟨project, List.mem_append_left _ recorded⟩

theorem noteReading {s : Session} {call : Call} (here : call ∈ s.calls) {reading : Reading}
    (isBound : call.bound = reading.bound) {next : Except Failure String → Work Answer}
    (reads : call.work = .read reading.source reading.path next) :
    s.Records (s.noteReading reading) where
  lookups := fun _ member => member
  readings := List.subset_append_left ..
  past := fun _ member => member
  present := id
  newLookup := fun _ => Or.inl
  newReading := by
    intro other member
    rcases List.mem_append.1 member with old | new
    · exact Or.inl old
    · rw [List.mem_singleton.1 new]
      exact Or.inr ⟨call, here, isBound, next, reads⟩
  found := id

theorem resume (s : Session) (i : Nat) (call : Call) (here : call ∈ s.calls) :
    s.Records (s.resume i call) := by
  obtain ⟨operation, bound, work⟩ := call
  cases work with
  | resolve project next =>
      show s.Records ((s.noteLookup ⟨operation, project, s.workspace.current? project⟩).proceed i _)
      refine proceed (noteLookup s rfl) i _ fun _ g inForce => ?_
      refine ⟨project, List.mem_append_right _ ?_⟩
      rw [show s.workspace.current? project = some g from inForce]
      exact List.mem_cons_self
  | read source path next =>
      show s.Records ((s.noteReading ⟨bound, source, path, _⟩).proceed i _)
      exact proceed (noteReading here rfl rfl) i _ fun all g => all _ here g
  | wait ready next =>
      show s.Records (if ready s.workspace then _ else s)
      split
      · exact proceed (refl s) i _ fun all g => all _ here g
      · exact refl s
  | restart =>
      refine proceed (refl s) i _ fun _ g impossible => ?_
      cases impossible
  | done | look | change => exact refl s

theorem step (s : Session) (move : Move) : s.Records (s.step move) := by
  cases move with
  | call operation => exact begin s operation
  | resume i =>
      cases here : s.calls[i]? with
      | some call =>
          rw [step_resume here]
          exact resume s i call (List.mem_of_getElem? here)
      | none =>
          rw [step_resume_of_none here]
          exact refl s
  | outside w => exact become s _

end Records

end Session

/-! ### Valid sessions -/

/-- A call is no edit, and its work is safe. -/
structure Call.IsSafe (call : Call) (E : Evidence) (w : Workspace) : Prop where
  request : call.operation.isEdit = false
  work : call.work.Safe E
    (fun g => ∀ project text, call.operation = .metadataChanged project text → E.given g text)
    call.operation.Delivers call.bound w

/-- A request is safe when it begins. -/
theorem Operation.isSafe (operation : Operation) (request : operation.isEdit = false)
    (E : Evidence) (w : Workspace) :
    (⟨operation, none, operation.work⟩ : Call).IsSafe E w :=
  ⟨request, operation.safe request fun project text _ same granted => granted project text same⟩

theorem Call.IsSafe.stable {call : Call} {E : Evidence} {w v : Workspace} (h : call.IsSafe E w)
    (suspended : call.work.isSuspended = true) (evolves : w.Evolves v) : call.IsSafe E v :=
  ⟨h.request, h.work.stable suspended evolves⟩

/-- A resource was read for a registration, from a source of its binding. -/
def Reading.IsOwn (reading : Reading) (w : Workspace) : Prop :=
  ∃ g r, reading.bound = some g ∧ w.registration? g = some r ∧ reading.source ∈ r.binding.sources

/-- The registration found for a project is one of that project. -/
def Lookup.IsOwn (lookup : Lookup) (w : Workspace) : Prop :=
  ∀ g, lookup.bound = some g → ∃ r, w.registration? g = some r ∧ r.project = lookup.project

theorem Reading.IsOwn.evolves {reading : Reading} {w v : Workspace} (h : reading.IsOwn w)
    (evolves : w.Evolves v) : reading.IsOwn v := by
  obtain ⟨g, r, bound, known, own⟩ := h
  obtain ⟨r', known', -, sameBinding, -⟩ := evolves.registration known
  exact ⟨g, r', bound, known', sameBinding ▸ own⟩

theorem Lookup.IsOwn.evolves {lookup : Lookup} {w v : Workspace} (h : lookup.IsOwn w)
    (evolves : w.Evolves v) : lookup.IsOwn v := by
  intro g found
  obtain ⟨r, known, same⟩ := h g found
  obtain ⟨r', known', sameProject, -⟩ := evolves.registration known
  exact ⟨r', known', sameProject.trans same⟩

namespace Session

/-- The workspace is sound, all calls that have not returned are safe, and registrations were read
for and found as is proper. -/
structure Valid (s : Session) (E : Evidence) : Prop where
  sound : s.workspace.Sound E
  safe : ∀ call ∈ s.calls, call.work.isSuspended = true → call.IsSafe E s.workspace
  found : ∀ call ∈ s.calls, s.Found call
  lookups : ∀ lookup ∈ s.lookups, lookup.IsOwn s.workspace
  readings : ∀ reading ∈ s.readings, reading.IsOwn s.workspace
  present : s.workspace ∈ s.past

/-! ### What a move can do -/

/-- What a move can do to workspace and calls: an edit, or a stretch of safe work of one call. -/
inductive Effect (E : Evidence) (s : Session) (move : Move) (s' : Session) : Prop where
  /-- At most a new call that has returned. -/
  | edit (edits : s.workspace.Edits s'.workspace) (calls : ∀ (i : Nat) (call : Call),
      s'.calls[i]? = some call → s.calls[i]? = some call ∨
        call.operation.isEdit = true ∧ call.work.isSuspended = false)
  /-- A call that has begun or gone on. -/
  | work (i : Nat) (call : Call) (here : s'.calls[i]? = some call)
      (others : ∀ j, i ≠ j → s'.calls[j]? = s.calls[j]?)
      (touches : s.workspace.Touches s'.workspace call.bound) (sound : s'.workspace.Sound E)
      (safe : call.IsSafe E s'.workspace) (resumed : call.bound = none ∨ move = .resume i)

variable {E : Evidence} {s : Session}

theorem Effect.refl (E : Evidence) (s : Session) (move : Move) : s.Effect E move s :=
  .edit (.of_registry rfl rfl) fun _ _ => Or.inl

theorem Valid.effect_begin (h : s.Valid E) (operation : Operation) :
    s.Effect E (.call operation) (s.begin operation) := by
  by_cases edit : operation.isEdit = true
  · obtain ⟨⟨answer, returned⟩, edits⟩ := operation.edits edit s.workspace
    refine .edit edits fun i call here => ?_
    by_cases other : s.calls.length = i
    · subst other
      rw [begin, List.getElem?_concat_length, Option.some.injEq] at here
      subst here
      refine Or.inr ⟨edit, ?_⟩
      show (operation.work.advance s.workspace).1.isSuspended = false
      rw [returned]
      rfl
    · exact Or.inl ((getElem?_concat_ne other).symm.trans here)
  · have request : operation.isEdit = false := by simpa using edit
    have safe := operation.isSafe request E s.workspace
    obtain ⟨touches, sound, rest⟩ := safe.work.advance h.sound
    exact .work s.calls.length _ List.getElem?_concat_length
      (fun j other => getElem?_concat_ne other) touches sound ⟨request, rest⟩ (Or.inl rfl)

/-- A call goes on with safe work. -/
theorem Valid.effect_proceed (h : s.Valid E) {t : Session} (workspace : t.workspace = s.workspace)
    (calls : t.calls = s.calls) {i : Nat} {old : Call} (here : s.calls[i]? = some old) (call : Call)
    (safe : call.IsSafe E s.workspace) : s.Effect E (.resume i) (t.proceed i call) := by
  obtain ⟨touches, sound, rest⟩ := safe.work.advance h.sound
  have inside : i < s.calls.length := (List.getElem?_eq_some_iff.1 here).1
  unfold proceed
  rw [workspace, calls]
  exact .work i _ (List.getElem?_set_self inside) (fun j other => List.getElem?_set_ne other)
    touches sound ⟨safe.request, rest⟩ (Or.inr rfl)

theorem Valid.effect_resume (h : s.Valid E) {i : Nat} {call : Call}
    (here : s.calls[i]? = some call) (covered : (s.resume i call).evidence.Within E) :
    s.Effect E (.resume i) (s.resume i call) := by
  have safe := h.safe call (List.mem_of_getElem? here)
  obtain ⟨operation, bound, work⟩ := call
  cases work with
  | done | look | change => exact .refl E s _
  | restart =>
      exact h.effect_proceed rfl rfl here _ (operation.isSafe (safe rfl).request E s.workspace)
  | wait ready next =>
      obtain ⟨request, safe⟩ := safe rfl
      show s.Effect E (.resume i) (if ready s.workspace then _ else s)
      by_cases now : ready s.workspace = true
      · rw [if_pos now]
        exact h.effect_proceed rfl rfl here ⟨operation, bound, next⟩
          ⟨request, safe s.workspace (.refl _) h.sound now⟩
      · rw [if_neg now]
        exact .refl E s _
  | read source path next =>
      obtain ⟨request, safe⟩ := safe rfl
      cases bound with
      | none => exact safe.elim
      | some g =>
          -- the reading is recorded in this very move, so the evidence has it
          have read : E.read g source path (s.workspace.read source path) :=
            covered.read (List.mem_append_right _ List.mem_cons_self)
          exact h.effect_proceed (t := s.noteReading ⟨some g, source, path, _⟩) rfl rfl here
            ⟨operation, some g, next _⟩
            ⟨request, safe.2 s.workspace (.refl _) h.sound _ read⟩
  | resolve project next =>
      obtain ⟨request, safe⟩ := safe rfl
      cases bound with
      | some g => exact safe.elim
      | none =>
          refine h.effect_proceed (t := s.noteLookup ⟨operation, project, _⟩) rfl rfl here
            ⟨operation, s.workspace.current? project, next (s.workspace.current? project)⟩
            ⟨request, safe s.workspace (.refl _) h.sound ?_⟩
          -- so is the lookup, and with it the text that an event brings
          intro g inForce project' text same
          refine covered.given ⟨_, List.mem_append_right _ List.mem_cons_self, inForce, ?_⟩
          exact ⟨project', same⟩

/-- All that a move can do. -/
theorem Valid.effect (h : s.Valid E) (move : Move) (covered : (s.step move).evidence.Within E) :
    s.Effect E move (s.step move) := by
  cases move with
  | call operation => exact h.effect_begin operation
  | resume i =>
      cases here : s.calls[i]? with
      | some call =>
          rw [step_resume here] at covered ⊢
          exact h.effect_resume here covered
      | none =>
          rw [step_resume_of_none here]
          exact .refl E s _
  | outside w => exact .edit (.of_registry rfl rfl) fun _ _ => Or.inl

/-! ### Every session is valid -/

theorem Effect.evolves {move : Move} {s' : Session} (h : s.Effect E move s') :
    s.workspace.Evolves s'.workspace := by
  cases h with
  | edit edits => exact edits.evolves
  | work _ _ _ _ touches => exact touches.evolves

theorem Effect.sound {move : Move} {s' : Session} (h : s.Effect E move s')
    (sound : s.workspace.Sound E) (present : s'.workspace ∈ s'.past)
    (covered : s'.evidence.Within E) : s'.workspace.Sound E := by
  cases h with
  | edit edits =>
      refine edits.sound sound fun {g} known declarations type target named => ?_
      exact covered.declared ⟨s'.workspace, present, known, named⟩
  | work _ _ _ _ _ sound => exact sound

/-- A call that has not returned is safe, whether it is the one that has moved or another. -/
theorem Effect.safe {move : Move} {s' : Session} (h : s.Effect E move s')
    (safe : ∀ call ∈ s.calls, call.work.isSuspended = true → call.IsSafe E s.workspace) :
    ∀ call ∈ s'.calls, call.work.isSuspended = true → call.IsSafe E s'.workspace := by
  intro call member suspended
  have evolves := h.evolves
  obtain ⟨j, here⟩ := List.mem_iff_getElem?.1 member
  have stable : s.calls[j]? = some call → call.IsSafe E s'.workspace := by
    intro before
    exact (safe call (List.mem_of_getElem? before) suspended).stable suspended evolves
  cases h with
  | edit edits calls =>
      rcases calls j call here with old | ⟨-, returned⟩
      · exact stable old
      · rw [returned] at suspended
        cases suspended
  | work i moved at_i others _ _ safe =>
      by_cases same : i = j
      · subst same
        obtain rfl := Option.some.inj (at_i.symm.trans here)
        exact safe
      · exact stable ((others j same).symm.trans here)

/-- A reading is that of a call that was about to read, so it is from one of its sources. -/
theorem Valid.isOwn_reading (h : s.Valid E) {reading : Reading} {call : Call}
    (member : call ∈ s.calls) (isBound : call.bound = reading.bound)
    {next : Except Failure String → Work Answer}
    (reads : call.work = .read reading.source reading.path next) :
    reading.IsOwn s.workspace := by
  have safe := (h.safe call member (by rw [reads]; rfl)).work
  rw [reads, isBound] at safe
  cases found : reading.bound with
  | none =>
      rw [found] at safe
      exact safe.elim
  | some g =>
      rw [found] at safe
      obtain ⟨r, known, own⟩ := safe.1
      exact ⟨g, r, found, known, own⟩

theorem isOwn_lookup {lookup : Lookup}
    (inForce : s.workspace.current? lookup.project = lookup.bound) :
    lookup.IsOwn s.workspace := by
  intro g found
  rw [found] at inForce
  exact s.workspace.registry.registered inForce

/-- A move keeps a session valid. -/
theorem Valid.step (h : s.Valid E) (move : Move) (covered : (s.step move).evidence.Within E) :
    (s.step move).Valid E := by
  have records := Records.step s move
  have effect := h.effect move covered
  have present := records.present h.present
  refine ⟨effect.sound h.sound present covered, effect.safe h.safe, records.found h.found,
    fun lookup member => ?_, fun reading member => ?_, present⟩
  · rcases records.newLookup lookup member with old | inForce
    · exact (h.lookups lookup old).evolves effect.evolves
    · exact (isOwn_lookup inForce).evolves effect.evolves
  · rcases records.newReading reading member with old | ⟨call, here, isBound, next, reads⟩
    · exact (h.readings reading old).evolves effect.evolves
    · exact (h.isOwn_reading here isBound reads).evolves effect.evolves

theorem evidence_run (s : Session) (moves : List Move) :
    s.evidence.Within (s.run moves).evidence := by
  induction moves generalizing s with
  | nil => exact .refl s.evidence
  | cons move moves ih => exact (Records.step s move).evidence_within.trans (ih (s.step move))

/-- So do several moves, for evidence that covers them all. -/
theorem Valid.run (h : s.Valid E) (moves : List Move) (covered : (s.run moves).evidence.Within E) :
    (s.run moves).Valid E := by
  induction moves generalizing s with
  | nil => exact h
  | cons move moves ih =>
      have here : (s.step move).evidence.Within E :=
        (evidence_run (s.step move) moves).trans covered
      exact ih (h.step move here) covered

theorem valid_start (w : Workspace) (E : Evidence) : (start w).Valid E where
  sound := by
    have unregistered : ∀ g, (start w).workspace.registration? g = none := fun g => rfl
    refine ⟨fun {g r} known => ?_, fun {g r} known => ?_, fun {g} known => ?_⟩
    · rw [unregistered] at known
      cases known
    · rw [unregistered] at known
      cases known
    · rw [unregistered] at known
      cases known
  safe := fun _ member => absurd member List.not_mem_nil
  found := fun _ member => absurd member List.not_mem_nil
  lookups := fun _ member => absurd member List.not_mem_nil
  readings := fun _ member => absurd member List.not_mem_nil
  present := List.mem_cons_self

/-! ### Isolation -/

/-- All that registrations show has come to them from the sources and declarations of their own
bindings. -/
structure Sourced (s : Session) : Prop where
  /-- Whatever was built for a registration. -/
  progress : ∀ g r, s.workspace.registration? g = some r →
    r.progress.Stems s.evidence s.workspace.config.metadataFile g r.binding
  /-- The mods that are known of a project. -/
  environment : ∀ project environment, s.workspace.environment project = some environment →
    ∃ g r, s.workspace.current? project = some g ∧ s.workspace.registration? g = some r ∧
      ∀ mod ∈ environment.mods, mod.source ∈ r.binding.sources ∧
        (s.evidence.Finds g s.workspace.config.metadataFile mod ∨
          s.evidence.Announces g r.binding mod)
  /-- The applications that are known of a project. -/
  tryMixins : ∀ project target applications,
    s.workspace.tryMixins project target = some applications →
      ∃ g r, s.workspace.current? project = some g ∧ s.workspace.registration? g = some r ∧
        ∀ a ∈ applications, a.target = target ∧ ∃ config, s.evidence.Shows g r.binding config a
  /-- What has been read for a registration. -/
  readings : ∀ reading ∈ s.readings, reading.IsOwn s.workspace
  /-- What calls have found in force. -/
  lookups : ∀ lookup ∈ s.lookups, lookup.IsOwn s.workspace

/-- A registration in force after a move is new and nothing has been built for it, or it was in
force before and is as it was, unless a call went on that has found it in force for this
project. -/
def KeepsApart (s : Session) (move : Move) (s' : Session) : Prop :=
  ∀ project g, s'.workspace.current? project = some g →
    (s.workspace.registration? g = none ∧
      ∃ r, s'.workspace.registration? g = some r ∧ r.progress = {}) ∨
    s.workspace.current? project = some g ∧
      (s'.workspace.registration? g = s.workspace.registration? g ∨
        ∃ i call, move = .resume i ∧ s'.calls[i]? = some call ∧ call.bound = some g ∧
          ⟨call.operation, project, some g⟩ ∈ s'.lookups)

/-- An index that is returned in a move is that of the registration in force then, loaded and kept,
built from the binding of this registration, and the call has found it in force. -/
def ReturnsInForce (s s' : Session) : Prop :=
  ∀ (i : Nat) (call : Call) (project : String) (x : Index),
    s'.calls[i]? = some call → s.calls[i]? ≠ some call →
    call.operation = .index project → call.work = .done (.index x) →
      ∃ g r, call.bound = some g ∧ s'.workspace.current? project = some g ∧
        s'.workspace.registration? g = some r ∧ r.progress.index = x ∧
        r.progress.phase = .loaded ∧ r.progress.isKept = true ∧
        r.progress.Stems s'.evidence s'.workspace.config.metadataFile g r.binding

theorem Valid.sourced (h : s.Valid s.evidence) : s.Sourced where
  progress := fun g r known => h.sound.stems known
  environment := by
    intro project environment known
    obtain ⟨r, inForce, rfl⟩ := Option.map_eq_some_iff.1 known
    obtain ⟨g, current, registered⟩ := Option.bind_eq_some_iff.1 inForce
    refine ⟨g, r, current, registered, fun mod member => ?_⟩
    have stems := h.sound.stems registered
    rcases List.mem_append.1 member with own | other
    · obtain ⟨same, origin⟩ := stems.project mod (Option.mem_toList.1 own)
      exact ⟨same ▸ List.mem_cons_self, origin⟩
    · obtain ⟨among, finds⟩ := stems.classpath mod other
      exact ⟨List.mem_cons_of_mem _ among, Or.inl finds⟩
  tryMixins := by
    intro project target applications known
    unfold Workspace.tryMixins at known
    cases inForce : s.workspace.currentRegistration? project with
    | none =>
        rw [inForce] at known
        cases known
    | some r =>
        obtain ⟨g, current, registered⟩ := Option.bind_eq_some_iff.1 inForce
        rw [inForce] at known
        split at known
        · rename_i same
          split at known
          · obtain rfl := Option.some.inj same
            obtain rfl := Option.some.inj known
            exact ⟨g, _, current, registered, fun a shown =>
              (h.sound.stems registered).mem_mixinsFor shown⟩
          · cases known
        · cases known
  readings := h.readings
  lookups := h.lookups

/-- Calls find registrations of their projects, so one that has changed the registration in force
for a project has found it for this project. -/
theorem Valid.looked_up {s' : Session} (h : s'.Valid E) {project : String} {g : Generation}
    (inForce : s'.workspace.current? project = some g) {call : Call} (member : call ∈ s'.calls)
    (isBound : call.bound = some g) : ⟨call.operation, project, some g⟩ ∈ s'.lookups := by
  obtain ⟨looked, recorded⟩ := h.found call member g isBound
  obtain ⟨r, known, same⟩ := h.lookups _ recorded g rfl
  obtain ⟨r', known', same'⟩ := s'.workspace.registry.registered inForce
  obtain rfl := Option.some.inj (known.symm.trans known')
  rw [← same', same]
  exact recorded

theorem Effect.keepsApart {move : Move} {s' : Session} (h : s.Effect E move s')
    (valid : s'.Valid E) : s.KeepsApart move s' := by
  intro project g inForce
  have before : ∀ r, s.workspace.registration? g = some r →
      s.workspace.current? project = some g :=
    fun r known => h.evolves.current_of_current known inForce
  obtain ⟨r, known, named⟩ := s'.workspace.registry.registered inForce
  have known : s'.workspace.registration? g = some r := known
  cases h with
  | edit edits =>
      have current := Workspace.isCurrent_of_current inForce
      rcases edits.eq_or_fresh current with same | fresh
      · rw [known] at same
        exact Or.inr ⟨before r same.symm, Or.inl (known.trans same)⟩
      · exact Or.inl fresh
  | work i call here others touches sound safe resumed =>
      refine Or.inr ⟨(touches.current project).symm.trans inForce, ?_⟩
      by_cases isBound : call.bound = some g
      · -- a call that has just begun is bound to nothing, so this one has gone on
        refine Or.inr ⟨i, call, ?_, here, isBound, ?_⟩
        · rcases resumed with unbound | resumed
          · rw [unbound] at isBound
            cases isBound
          · exact resumed
        · exact valid.looked_up inForce (List.mem_of_getElem? here) isBound
      · exact Or.inl (touches.others g isBound)

theorem Effect.returnsInForce {move : Move} {s' : Session} (h : s.Effect s'.evidence move s')
    (valid : s'.Valid s'.evidence) : s.ReturnsInForce s' := by
  intro i call project x here fresh named returned
  cases h with
  | edit edits calls =>
      rcases calls i call here with old | ⟨edit, -⟩
      · exact absurd old fresh
      · rw [named] at edit
        cases edit
  | work j moved at_j others touches sound safe =>
      by_cases same : j = i
      · subst same
        obtain rfl := Option.some.inj (at_j.symm.trans here)
        have delivers := safe.work
        rw [returned] at delivers
        obtain ⟨g, r, isBound, inForce, known, loaded, kept, index⟩ := delivers project x named rfl
        exact ⟨g, r, isBound, inForce, known, index, loaded, kept, valid.sound.stems known⟩
      · exact absurd ((others i same).symm.trans here) fresh

/-- Registrations are isolated: in every session, and whatever the next move is, registrations
show only what has come to them from their own sources and declarations, only calls that have
found them in force change those in force, and an index that is returned is that of the
registration in force. -/
theorem isolated (w : Workspace) (moves : List Move) (move : Move) :
    let s := (start w).run moves
    s.Sourced ∧ s.KeepsApart move (s.step move) ∧ s.ReturnsInForce (s.step move) := by
  intro s
  have valid : s.Valid s.evidence := (valid_start w s.evidence).run moves (.refl _)
  -- seen from the end of the move, the evidence before it is not complete
  have covered : s.evidence.Within (s.step move).evidence :=
    (Records.step s move).evidence_within
  have before : s.Valid (s.step move).evidence := (valid_start w _).run moves covered
  have effect := before.effect move (.refl _)
  have after := before.step move (.refl _)
  exact ⟨valid.sourced, effect.keepsApart after, effect.returnsInForce after⟩

end Session

end MixinIndex
