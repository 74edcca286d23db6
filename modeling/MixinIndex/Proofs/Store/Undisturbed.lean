import MixinIndex.Proofs.Store.Staleness

/-!
# Undisturbed requests

A request about a project is for the registration that is in force, and nothing happens while it is
served.  If it does not have to wait for what nobody does, it ends with a complete index, with or
without the effect of an event.

## Main definitions

* `Operation.subject?`: the requests that are about a project's index
* `Operation.isMeaningless`: a metadata text that makes no sense
* `Work.IsStuck`: undisturbed work waits for what nobody does
* `Operation.Ends`: how an undisturbed request about a registration in force ends

## Main statements

* `Workspace.perform_of_unregistered`: there is no registration in force
* `Operation.ends`: all such requests end so
* `Workspace.currentRegistration?_modify_of_ne`, `Workspace.currentRegistration?_register_of_ne`,
  `Workspace.currentRegistration?_removeProject_of_ne`: other projects keep their registrations
-/

namespace MixinIndex

namespace Operation

/-- The project of a request that is about an index. -/
def subject? : Operation → Option String
  | index project | mixins project _ | augmentations project _ | metadataChanged project _
  | metadataRemoved project | typesChanged project _ => some project
  | _ => none

/-- An event of a metadata text that makes no sense. -/
def isMeaningless : Operation → Bool
  | metadataChanged _ text => !(Metadata.ofText text).isOk
  | _ => false

end Operation

/-! ### Work that waits -/

namespace Work

/-- Undisturbed work waits for what nobody does. -/
def IsStuck {α : Type} (work : Work α) (w : Workspace) : Prop :=
  work.attempt Workspace.readResource w = none

variable {α β : Type} {w v : Workspace} {g : Generation} {project : String}

theorem IsStuck.bind {work : Work α} (stuck : work.IsStuck w) (f : α → Work β) :
    (work >>= f).IsStuck w := by
  rw [IsStuck, attempt_bind, stuck]
  rfl

theorem Yields.bind_isStuck {work : Work α} {a : α} {f : α → Work β} (first : work.Yields w a v)
    (stuck : (f a).IsStuck v) : (work >>= f).IsStuck w := by
  rw [IsStuck, attempt_bind, first]
  exact stuck

theorem isStuck_await {ready : Workspace → Bool} (notYet : ready w = false) :
    (await ready).IsStuck w := by
  rw [IsStuck, await, attempt, notYet]
  rfl

variable {r : Registration}

/-- Somebody else is building. -/
theorem isStuck_built (known : w.registration? g = some r) (unkept : r.progress.isKept = false)
    (loading : r.progress.phase = .loading) : (built g).IsStuck w := by
  refine .bind (Yields.bind_isStuck (.workspace w) ?_) _
  have waits : (!w.isLoading g) = false := by
    rw [Workspace.isLoading, known, Option.any_some, loading]
    rfl
  rw [known]
  simp only [unkept, loading, Bool.false_eq_true, ↓reduceIte]
  exact isStuck_await waits

theorem isStuck_forProject {work : Generation → Work (Except Failure α)}
    (inForce : w.current? project = some g) (stuck : (work g).IsStuck w) :
    (forProject project work).IsStuck w := by
  refine Yields.bind_isStuck (.currentOf w project) ?_
  rw [inForce]
  exact stuck

/-- An event is being applied, or somebody is building. -/
theorem isStuck_event {work : Registration → Work α} (known : w.registration? g = some r)
    (busy : r.progress.isLocked = true ∨ r.progress.isKept = false ∧ r.progress.phase = .loading) :
    (event g project work).IsStuck w := by
  cases locked : r.progress.isLocked with
  | true =>
      refine .bind (isStuck_await ?_) _
      rw [Workspace.isLocked, known, Option.any_some, locked]
      rfl
  | false =>
      have free : (!w.isLocked g) = true := by
        rw [Workspace.isLocked, known, Option.any_some, locked]
        rfl
      -- the lock is free, so the event takes it and then waits for the build
      obtain ⟨unkept, loading⟩ := busy.resolve_left (by simp [locked])
      have knownLocked : (w.modify g Progress.lock).registration? g =
          some (r.modify Progress.lock) := by
        rw [Workspace.registration?_modify_self, known]
        rfl
      exact Yields.bind_isStuck (.await free) (Yields.bind_isStuck (.modify w g _)
        (.bind (.bind (isStuck_built knownLocked unkept loading) _) _))

end Work

namespace Workspace

theorem perform_of_isStuck {operation : Operation} {w : Workspace}
    (stuck : operation.work.IsStuck w) : w.perform readResource operation = none := by
  rw [perform, Work.complete, stuck]
  rfl

end Workspace

/-! ### Where no registration is in force -/

namespace Work

theorem yields_forProject_of_unregistered {α : Type} {w : Workspace} {project : String}
    (absent : w.current? project = none) (work : Generation → Work (Except Failure α)) :
    (forProject project work).Yields w (.error (.projectNotFound project)) w := by
  refine .bind (.currentOf w project) ?_
  rw [absent]
  exact .pure _ w

end Work

/-- A request about a project that is not registered fails, and changes nothing. -/
theorem Workspace.perform_of_unregistered {w : Workspace} {operation : Operation}
    {project : String} (about : operation.subject? = some project)
    (absent : w.current? project = none) : w.perform readResource operation =
      some (.failed (.projectNotFound project), w) := by
  refine perform_of_yields ?_
  cases operation with
  | index _ | augmentations _ _ | metadataChanged _ _ | metadataRemoved _ | typesChanged _ _ =>
      obtain rfl := Option.some.inj about
      exact .bind (Work.yields_forProject_of_unregistered absent _) (.pure _ w)
  | mixins _ _ =>
      obtain rfl := Option.some.inj about
      exact .bind (.bind (Work.yields_forProject_of_unregistered absent _) (.pure _ w)) (.pure _ w)
  | register _ _ | removeProject _ | projects | phase _ | environment _ | tryMixins _ _
  | putFile _ _ _ | removeFile _ _ | declare _ _ | undeclare _ _ => cases about

/-! ### Where a registration is in force -/

/-- How an undisturbed request about a registration in force ends: with an answer and a workspace,
or not at all. -/
inductive Operation.Ends (operation : Operation) (w : Workspace) (g : Generation)
    (r : Registration) : Option (Answer × Workspace) → Prop
  /-- A metadata text that makes no sense is refused. -/
  | refused {failure : Failure} (meaningless : operation.isMeaningless = true) :
    Ends operation w g r (some (.failed failure, w))
  /-- The registration is being built or an event is being applied, and the request waits. -/
  | waiting (meaningful : operation.isMeaningless = false)
    (busy : r.progress.isLocked = true ∨ r.progress.isKept = false ∧ r.progress.phase = .loading) :
    Ends operation w g r none
  /-- The index is seen to, and the answer is found in it. -/
  | asked {answer : Answer} (meaningful : operation.isMeaningless = false)
    (idle : r.progress.isKept = true ∨ r.progress.phase ≠ .loading) :
    Ends operation w g r (some (answer, w.modify g (w.settled r.binding)))
  /-- The index is seen to, and an event is applied to it. -/
  | applied {answer : Answer} {f : Progress → Progress}
    (meaningful : operation.isMeaningless = false) (unlocked : r.progress.isLocked = false)
    (succeeds : ∀ failure, answer ≠ .failed failure)
    (keeps : ∀ p, (f p).isKept = p.isKept ∧ (f p).phase = p.phase) :
    Ends operation w g r
      (some (answer, w.modify g (Progress.unlock ∘ f ∘ w.settled r.binding ∘ Progress.lock)))

namespace Operation

variable {w : Workspace} {project : String} {g : Generation} {r : Registration}

/-- A question about an index is answered once the index is there. -/
theorem ends_question {operation : Operation} (meaningful : operation.isMeaningless = false)
    (stuck : (Work.built g).IsStuck w → operation.work.IsStuck w)
    (known : w.registration? g = some r)
    (answered : r.progress.isKept = true ∨ r.progress.phase ≠ .loading → ∃ answer,
      operation.work.Yields w answer (w.modify g (w.settled r.binding))) :
    operation.Ends w g r (w.perform Workspace.readResource operation) := by
  by_cases idle : r.progress.isKept = true ∨ r.progress.phase ≠ .loading
  · obtain ⟨answer, yields⟩ := answered idle
    rw [Workspace.perform_of_yields yields]
    exact .asked meaningful idle
  · rw [not_or, Bool.not_eq_true, not_not] at idle
    rw [Workspace.perform_of_isStuck (stuck (Work.isStuck_built known idle.1 idle.2))]
    exact .waiting meaningful (Or.inr idle)

/-- An event is applied once the index is there, and no other event is being applied. -/
theorem ends_event {operation : Operation} (meaningful : operation.isMeaningless = false)
    (stuck : (r.progress.isLocked = true ∨
      r.progress.isKept = false ∧ r.progress.phase = .loading) → operation.work.IsStuck w)
    (known : w.registration? g = some r) (inForce : w.current? project = some g)
    (applied : (⟨project, g, r.binding, fun _ => True⟩ : Tenure).Standing w r.progress →
      ∃ answer f, w.perform Workspace.readResource operation = some (answer,
          (⟨project, g, r.binding, fun _ => True⟩ : Tenure).afterEvent w f) ∧
        (∀ failure, answer ≠ .failed failure) ∧
        ∀ p, (f p).isKept = p.isKept ∧ (f p).phase = p.phase) :
    operation.Ends w g r (w.perform Workspace.readResource operation) := by
  by_cases busy : r.progress.isLocked = true ∨
      r.progress.isKept = false ∧ r.progress.phase = .loading
  · rw [Workspace.perform_of_isStuck (stuck busy)]
    exact .waiting meaningful busy
  · rw [not_or, Bool.not_eq_true, not_and_or, Bool.not_eq_false] at busy
    obtain ⟨answer, f, performed, succeeds, keeps⟩ :=
      applied (Tenure.standing_of_isIdle inForce known busy.1 busy.2)
    rw [performed]
    exact .applied meaningful busy.1 succeeds keeps

/-- How undisturbed requests about a registration in force end. -/
theorem ends (operation : Operation) (about : operation.subject? = some project)
    (inForce : w.current? project = some g) (known : w.registration? g = some r) :
    operation.Ends w g r (w.perform Workspace.readResource operation) := by
  have isCurrent := Workspace.isCurrent_of_current inForce
  cases operation with
  | index _ =>
      obtain rfl := Option.some.inj about
      refine ends_question rfl (fun stuck => ?_) known fun idle => ?_
      · exact (Work.isStuck_forProject inForce (stuck.bind _)).bind _
      · exact ⟨_, .bind (Work.yields_index inForce known isCurrent idle) (.pure _ _)⟩
  | mixins _ target =>
      obtain rfl := Option.some.inj about
      refine ends_question rfl (fun stuck => ?_) known fun idle => ?_
      · exact ((Work.isStuck_forProject inForce (stuck.bind _)).bind _).bind _
      · exact ⟨_, .bind (.bind (Work.yields_index inForce known isCurrent idle) (.pure _ _))
          (.pure _ _)⟩
  | augmentations _ target =>
      obtain rfl := Option.some.inj about
      refine ends_question rfl (fun stuck => ?_) known fun idle => ?_
      · exact (Work.isStuck_forProject inForce ((stuck.bind _).bind _)).bind _
      · exact ⟨_, .bind (Work.yields_augmentations inForce known isCurrent idle target) (.pure _ _)⟩
  | metadataChanged other text =>
      obtain rfl : project = other := (Option.some.inj about).symm
      cases read : Metadata.ofText text with
      | error failure =>
          have refused : (Work.metadataChanged project text).Yields w (.error failure) w := by
            refine Work.yields_forProject inForce ?_
            rw [read]
            exact .pure _ w
          have performed : w.perform Workspace.readResource (.metadataChanged project text) =
              some (.failed failure, w) := Workspace.perform_of_yields (.bind refused (.pure _ w))
          rw [performed]
          exact .refused (by rw [isMeaningless, read]; rfl)
      | ok metadata =>
          refine ends_event (by rw [isMeaningless, read]; rfl) (fun busy => ?_) known inForce
            fun standing => ?_
          · refine (Work.isStuck_forProject inForce ?_).bind _
            rw [read]
            exact Work.isStuck_event known busy
          · exact ⟨_, _, standing.metadataChanged read, (by rintro _ ⟨⟩),
              fun _ => ⟨rfl, rfl⟩⟩
  | metadataRemoved _ =>
      obtain rfl := Option.some.inj about
      refine ends_event rfl (fun busy => ?_) known inForce fun standing => ?_
      · exact (Work.isStuck_forProject inForce (Work.isStuck_event known busy)).bind _
      · exact ⟨_, _, standing.metadataRemoved, (by rintro _ ⟨⟩), fun _ => ⟨rfl, rfl⟩⟩
  | typesChanged _ types =>
      obtain rfl := Option.some.inj about
      refine ends_event rfl (fun busy => ?_) known inForce fun standing => ?_
      · exact (Work.isStuck_forProject inForce (Work.isStuck_event known busy)).bind _
      · exact ⟨_, _, standing.touched types, (by rintro _ ⟨⟩), fun _ => ⟨rfl, rfl⟩⟩
  | register _ _ | removeProject _ | projects | phase _ | environment _ | tryMixins _ _
  | putFile _ _ _ | removeFile _ _ | declare _ _ | undeclare _ _ => cases about

end Operation

/-! ### Other projects -/

namespace Workspace

variable {w : Workspace} {project other : String}

/-- Two projects do not share a registration. -/
theorem current?_ne (different : other ≠ project) {g : Generation}
    (inForce : w.current? project = some g) : w.current? other ≠ some g := by
  intro shared
  obtain ⟨r, known, named⟩ := w.registry.registered inForce
  obtain ⟨s, knownS, namedS⟩ := w.registry.registered shared
  obtain rfl := Option.some.inj (known.symm.trans knownS)
  exact different (namedS.symm.trans named)

theorem currentRegistration?_congr {v : Workspace} (current : v.current? other = w.current? other)
    (registration : ∀ g, w.current? other = some g → v.registration? g = w.registration? g) :
    v.currentRegistration? other = w.currentRegistration? other := by
  rw [currentRegistration?, currentRegistration?, current]
  cases inForce : w.current? other with
  | none => rfl
  | some g => exact registration g inForce

theorem currentRegistration?_of_registry {v : Workspace} (same : v.registry = w.registry) :
    v.currentRegistration? other = w.currentRegistration? other := by
  unfold currentRegistration? current? registration?
  rw [same]

theorem currentRegistration?_modify_self {g : Generation} (inForce : w.current? project = some g)
    (f : Progress → Progress) : (w.modify g f).currentRegistration? project =
      (w.currentRegistration? project).map (·.modify f) := by
  rw [currentRegistration?, currentRegistration?, current?_modify, inForce, Option.bind_some,
    Option.bind_some, registration?_modify_self]

theorem currentRegistration?_modify_of_ne (different : other ≠ project) {g : Generation}
    (inForce : w.current? project = some g) (f : Progress → Progress) :
    (w.modify g f).currentRegistration? other = w.currentRegistration? other := by
  refine currentRegistration?_congr rfl fun k currentK => w.registration?_modify_of_ne ?_ f
  rintro rfl
  exact current?_ne different inForce currentK

theorem currentRegistration?_register_self (b : Binding) :
    (w.register project b).currentRegistration? project = some { project, binding := b } := by
  rw [currentRegistration?, current?_register, if_pos rfl, Option.bind_some, registration?_register,
    if_pos rfl]

theorem currentRegistration?_register_of_ne (different : other ≠ project) (b : Binding) :
    (w.register project b).currentRegistration? other = w.currentRegistration? other := by
  refine currentRegistration?_congr ?_ fun k currentK => ?_
  · rw [current?_register, if_neg different.symm]
  · obtain ⟨r, known, -⟩ := w.registry.registered currentK
    have old : k ≠ w.next := Nat.ne_of_lt (w.lt_next (Option.isSome_iff_exists.2 ⟨r, known⟩))
    rw [registration?_register, if_neg old, if_neg (current?_ne different.symm currentK)]

theorem currentRegistration?_removeProject_self :
    (w.removeProject project).currentRegistration? project = none := by
  rw [currentRegistration?, current?_removeProject, if_pos rfl]
  rfl

theorem currentRegistration?_removeProject_of_ne (different : other ≠ project) :
    (w.removeProject project).currentRegistration? other = w.currentRegistration? other := by
  refine currentRegistration?_congr ?_ fun k currentK => ?_
  · rw [current?_removeProject, if_neg different.symm]
  · rw [registration?_removeProject, if_neg (current?_ne different.symm currentK)]

end Workspace

end MixinIndex
