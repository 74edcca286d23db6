import MixinIndex.Proofs.Store.Safety

/-!
# Edits

Some requests are over as soon as they begin: they register or forget a project, or change a source
or declarations.  They add registrations and take them out of force, but leave what was built for
a registration in force as it is.

## Main definitions

* `Operation.isEdit`: the requests that are edits
* `Workspace.Edits`: what edits do to registrations

## Main statements

* `Workspace.registration?_register`, `Workspace.registration?_removeProject`: the registrations
  after a project has been registered or forgotten
* `Workspace.Edits.sound`: a workspace remains sound
* `Operation.edits`: the requests that are edits have no other effect
-/

namespace MixinIndex

/-! ### Registries -/

namespace Registry

variable (x : Registry) (project : String)

theorem current_dropIndex : (x.dropIndex project).current = x.current := by
  unfold dropIndex
  split <;> rfl

theorem length_dropIndex :
    (x.dropIndex project).registrations.length = x.registrations.length := by
  unfold dropIndex
  split
  · exact List.length_modify ..
  · rfl

theorem getElem?_dropIndex (g : Generation) :
    (x.dropIndex project).registrations[g]? =
      if x.current[project]? = some g then
        x.registrations[g]?.map (·.modify Progress.dropIndex)
      else x.registrations[g]? := by
  unfold dropIndex
  cases found : x.current[project]? with
  | none => rfl
  | some k =>
      by_cases same : k = g
      · subst same
        simp [modify]
      · simp [modify, same]

end Registry

namespace Workspace

variable (w : Workspace) (project : String) (b : Binding)

/-- The number that the next registration gets. -/
def next : Generation := w.registry.registrations.length

theorem lt_next {g : Generation} (known : (w.registration? g).isSome = true) : g < w.next := by
  obtain ⟨r, found⟩ := Option.isSome_iff_exists.1 known
  exact (List.getElem?_eq_some_iff.1 found).1

theorem current?_register (other : String) : (w.register project b).current? other =
    if project = other then some w.next else w.current? other := by
  show ((w.registry.dropIndex project).current.insert project _)[other]? = _
  rw [Std.ExtTreeMap.getElem?_insert, w.registry.current_dropIndex, w.registry.length_dropIndex]
  by_cases same : project = other
  · simp [same, next]
  · simp [same, current?]

theorem current?_removeProject (other : String) : (w.removeProject project).current? other =
    if project = other then none else w.current? other := by
  show ((w.registry.dropIndex project).current.erase project)[other]? = _
  rw [Std.ExtTreeMap.getElem?_erase, w.registry.current_dropIndex]
  by_cases same : project = other
  · simp [same]
  · simp [same, current?]

theorem registration?_removeProject (g : Generation) :
    (w.removeProject project).registration? g =
      if w.current? project = some g then
        (w.registration? g).map (·.modify Progress.dropIndex)
      else w.registration? g :=
  w.registry.getElem?_dropIndex project g

theorem registration?_register (g : Generation) : (w.register project b).registration? g =
    if g = w.next then some { project, binding := b }
    else if w.current? project = some g then
      (w.registration? g).map (·.modify Progress.dropIndex)
    else w.registration? g := by
  show ((w.registry.dropIndex project).registrations ++ [{ project, binding := b }])[g]? = _
  by_cases new : g = w.next
  · rw [if_pos new, new, next, ← w.registry.length_dropIndex project, List.getElem?_concat_length]
  · rw [if_neg new]
    have dropped := w.registry.getElem?_dropIndex project g
    rcases Nat.lt_or_gt_of_ne new with inside | outside
    · rw [List.getElem?_append_left (by rw [w.registry.length_dropIndex]; exact inside), dropped]
      rfl
    · -- beyond the new registration there is none, neither before nor after
      have absent : w.registry.registrations[g]? = none :=
        List.getElem?_eq_none (Nat.le_of_lt outside)
      have beyond : w.registry.registrations.length < g := outside
      rw [List.getElem?_eq_none (by simp [w.registry.length_dropIndex]; omega)]
      simp [registration?, absent]

/-! ### Edits of a workspace -/

/-- Registrations keep their project and binding, and what was built for one changes only when it
is taken out of force; then its index is no longer kept. -/
structure Edits (w v : Workspace) : Prop where
  config : v.config = w.config
  registration : ∀ {g : Generation} {r : Registration}, w.registration? g = some r →
    v.registration? g = some r ∨
      v.registration? g = some (r.modify Progress.dropIndex) ∧ v.isCurrent g = false
  fresh : ∀ {g : Generation} {r : Registration}, w.registration? g = none →
    v.registration? g = some r → r.progress = {}
  outdated : ∀ {g : Generation}, (w.registration? g).isSome = true → w.isCurrent g = false →
    v.isCurrent g = false

namespace Edits

variable {w v : Workspace} {project : String} {b : Binding}

theorem evolves (h : w.Edits v) : w.Evolves v where
  config := h.config
  registration := by
    intro g r known
    rcases h.registration known with same | ⟨dropped, -⟩
    · exact ⟨r, same, rfl, rfl, id⟩
    · exact ⟨_, dropped, rfl, rfl, id⟩
  outdated := h.outdated

/-- What was built for a registration in force is unchanged, or the registration is new. -/
theorem eq_or_fresh (h : w.Edits v) {g : Generation} (current : v.isCurrent g = true) :
    v.registration? g = w.registration? g ∨
      w.registration? g = none ∧ ∃ r, v.registration? g = some r ∧ r.progress = {} := by
  cases known : w.registration? g with
  | some r =>
      rcases h.registration known with same | ⟨-, gone⟩
      · exact Or.inl same
      · rw [gone] at current
        cases current
  | none =>
      cases found : v.registration? g with
      | none =>
          rw [isCurrent, found] at current
          cases current
      | some r => exact Or.inr ⟨rfl, r, rfl, h.fresh known found⟩

/-- A workspace remains sound, provided that the evidence has the targets that are declared
then. -/
theorem sound (h : w.Edits v) {E : Evidence} (sound : w.Sound E)
    (seen : ∀ {g : Generation}, (v.registration? g).isSome = true →
      ∀ declarations type target, target ∈ v.targetsOf declarations type →
        E.declared g declarations type target) : v.Sound E where
  stems := by
    intro g r known
    rw [h.config]
    cases before : w.registration? g with
    | none =>
        rw [h.fresh before known]
        exact .initial
    | some s =>
        rcases h.registration before with same | ⟨dropped, -⟩
        · obtain rfl := Option.some.inj (known.symm.trans same)
          exact sound.stems before
        · obtain rfl := Option.some.inj (known.symm.trans dropped)
          exact (sound.stems before).dropIndex
  kept := by
    intro g r known current
    rcases h.eq_or_fresh current with same | ⟨-, s, found, new⟩
    · rw [same] at known
      refine sound.kept known ?_
      cases was : w.isCurrent g with
      | true => rfl
      | false =>
          rw [h.outdated (Option.isSome_iff_exists.2 ⟨r, known⟩) was] at current
          cases current
    · obtain rfl := Option.some.inj (known.symm.trans found)
      rw [new]
      simp
  seen := seen

/-- A change of sources, declarations and files. -/
theorem of_registry (config : v.config = w.config) (same : v.registry = w.registry) :
    w.Edits v := by
  have registrations : ∀ g, v.registration? g = w.registration? g := by
    intro g
    rw [registration?, same]
    rfl
  refine ⟨config, fun {g r} known => ?_, fun {g r} absent known => ?_, fun {g} _ outdated => ?_⟩
  · exact Or.inl ((registrations g).trans known)
  · rw [registrations, absent] at known
    cases known
  · rw [← outdated, isCurrent, isCurrent, registrations]
    unfold current?
    rw [same]

/-- The registration of a project that was in force is superseded, by a new one or by none. -/
theorem of_superseded {w v : Workspace} (project : String) (config : v.config = w.config)
    (registered : ∀ {g r}, w.registration? g = some r → v.registration? g =
      some (if w.current? project = some g then r.modify Progress.dropIndex else r))
    (fresh : ∀ {g r}, w.registration? g = none → v.registration? g = some r → r.progress = {})
    (superseded : ∀ {g r}, w.registration? g = some r → v.current? project ≠ some g)
    (others : ∀ other, project ≠ other → v.current? other = w.current? other) : w.Edits v where
  config := config
  registration := by
    intro g r known
    by_cases current : w.current? project = some g
    · have dropped := registered known
      rw [if_pos current] at dropped
      refine Or.inr ⟨dropped, (isCurrent_eq_false dropped).2 ?_⟩
      obtain ⟨s, knownS, same⟩ := w.registry.registered current
      obtain rfl := Option.some.inj (known.symm.trans knownS)
      show v.current? r.project ≠ some g
      rw [same]
      exact superseded known
    · exact Or.inl (by rw [registered known, if_neg current])
  fresh := fresh
  outdated := by
    intro g isKnown lost
    obtain ⟨r, known⟩ := Option.isSome_iff_exists.1 isKnown
    have lost := (isCurrent_eq_false known).1 lost
    have after := registered known
    by_cases same : project = r.project
    · subst same
      rw [if_neg lost] at after
      exact (isCurrent_eq_false after).2 (superseded known)
    · rw [if_neg] at after
      · rw [isCurrent_eq_false after, others r.project same]
        exact lost
      · intro current
        obtain ⟨s, knownS, named⟩ := w.registry.registered current
        obtain rfl := Option.some.inj (known.symm.trans knownS)
        exact same named.symm

theorem register (w : Workspace) (project : String) (b : Binding) :
    w.Edits (w.register project b) := by
  have old : ∀ {g r}, w.registration? g = some r → g ≠ w.next := by
    intro g r known
    exact Nat.ne_of_lt (w.lt_next (Option.isSome_iff_exists.2 ⟨r, known⟩))
  refine of_superseded project rfl (fun {g r} known => ?_) (fun {g r} absent known => ?_)
    (fun {g r} known => ?_) fun other different => ?_
  · rw [registration?_register, if_neg (old known), known]
    split <;> rfl
  · rw [registration?_register, absent] at known
    by_cases new : g = w.next
    · rw [if_pos new] at known
      rw [← Option.some.inj known]
    · simp [if_neg new] at known
  · -- the number of the new registration is not that of an old one
    rw [current?_register, if_pos rfl]
    intro same
    exact old known (Option.some.inj same).symm
  · rw [current?_register, if_neg different]

theorem removeProject (w : Workspace) (project : String) : w.Edits (w.removeProject project) := by
  refine of_superseded project rfl (fun {g r} known => ?_) (fun {g r} absent known => ?_)
    (fun {_ _} _ => ?_) fun other different => ?_
  · rw [registration?_removeProject, known]
    split <;> rfl
  · rw [registration?_removeProject, absent] at known
    simp at known
  · rw [current?_removeProject, if_pos rfl]
    simp
  · rw [current?_removeProject, if_neg different]

end Edits

end Workspace

/-! ### Requests that are edits -/

/-- Whether a request changes what is registered, or the sources and declarations. -/
def Operation.isEdit : Operation → Bool
  | register .. | removeProject .. | putFile .. | removeFile .. | declare .. | undeclare .. => true
  | _ => false

/-- A request that is an edit is over at once, and has no other effect. -/
theorem Operation.edits (operation : Operation) (edit : operation.isEdit = true) (w : Workspace) :
    (∃ answer, (operation.work.advance w).1 = .done answer) ∧
      w.Edits (operation.work.advance w).2 := by
  cases operation with
  | register project b => exact ⟨⟨_, rfl⟩, .register w project b⟩
  | removeProject project => exact ⟨⟨_, rfl⟩, .removeProject w project⟩
  | putFile | removeFile | declare | undeclare => exact ⟨⟨_, rfl⟩, .of_registry rfl rfl⟩
  | projects | phase | environment | index | tryMixins | mixins | augmentations | metadataChanged
  | metadataRemoved | typesChanged => cases edit

end MixinIndex
