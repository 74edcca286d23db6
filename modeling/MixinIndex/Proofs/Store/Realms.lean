import MixinIndex.Proofs.Store.Edits
import MixinIndex.Proofs.Store.Sequential

/-!
# The realm of a project

Two workspaces may show the same of one project, although registrations have other numbers there
and other projects are registered.  They go on to do so if the same is done to both for the project,
and if something is done to either that has nothing to do with it.

## Main definitions

* `Realm`: a project with the sources and declarations that are its own
* `Workspace.Mirrors`: two workspaces show the same of a realm
* `Workspace.MirrorsAt`: the same, with the registrations that work is for
* `Workspace.Spares`: a change that has nothing to do with a realm

## Main statements

* `Workspace.Mirrors.modify`, `Workspace.Mirrors.register`, `Workspace.Mirrors.removeProject`: what
  is done to both
* `Workspace.Mirrors.spared`: what is done to one of them

## Design notes

Registrations correspond to each other by a relation of their numbers.  Numbers are never given
twice, so this relation only grows, and it is one to one.
-/

namespace MixinIndex

/-- A project, with the sources and declarations that are its own. -/
structure Realm where
  project : String
  /-- Whether a source is its own. -/
  sources : String → Bool
  /-- Whether declarations are its own. -/
  declarations : String → Bool

/-- All sources and declarations are those of a project. -/
def Realm.whole (project : String) : Realm := ⟨project, fun _ => true, fun _ => true⟩

/-- A binding names only what belongs to a realm. -/
structure Binding.Within (b : Binding) (m : Realm) : Prop where
  sources : ∀ source ∈ b.sources, m.sources source = true
  declarations : m.declarations b.declarations = true

/-- The registrations, if any, that work is for in two workspaces. -/
abbrev Pairing := Option (Generation × Generation)

namespace Workspace

/-! ### Workspaces that show the same -/

/-- Two workspaces show the same of a realm, and the numbers of its registrations are paired. -/
structure Mirrors (m : Realm) (paired : Generation → Generation → Prop) (w v : Workspace) :
    Prop where
  config : v.config = w.config
  disk : v.disk = w.disk
  source : ∀ name, m.sources name = true → v.source name = w.source name
  catalogue : ∀ name, m.declarations name = true → v.catalogue name = w.catalogue name
  registration : ∀ {g k : Generation}, paired g k → ∃ r, w.registration? g = some r ∧
    v.registration? k = some r ∧ r.project = m.project ∧ r.binding.Within m
  unique : ∀ {g k g' k' : Generation}, paired g k → paired g' k' → (g = g' ↔ k = k')
  current : w.current? m.project = none ∧ v.current? m.project = none ∨
    ∃ g k, paired g k ∧ w.current? m.project = some g ∧ v.current? m.project = some k

/-- Two workspaces show the same of a realm, and the registrations that work is for correspond to
each other. -/
def MirrorsAt (m : Realm) (bound : Pairing) (w v : Workspace) : Prop :=
  ∃ paired, w.Mirrors m paired v ∧ ∀ pair ∈ bound, paired pair.1 pair.2

variable {m : Realm} {paired : Generation → Generation → Prop} {w v : Workspace}
  {g k : Generation}

namespace Mirrors

variable (h : w.Mirrors m paired v)
include h

theorem read {source : String} (own : m.sources source = true) (path : String) :
    v.read source path = w.read source path := by
  unfold Workspace.read
  rw [h.source source own, h.disk]

/-- What is in force for the project is the same, though not by its number. -/
theorem currentRegistration? :
    v.currentRegistration? m.project = w.currentRegistration? m.project := by
  unfold Workspace.currentRegistration?
  rcases h.current with ⟨absent, absent'⟩ | ⟨g, k, pair, inForce, inForce'⟩
  · rw [absent, absent']
    rfl
  · obtain ⟨r, known, known', -⟩ := h.registration pair
    rw [inForce, inForce', Option.bind_some, Option.bind_some, known, known']

theorem isSome_current? :
    (v.current? m.project).isSome = (w.current? m.project).isSome := by
  rcases h.current with ⟨absent, absent'⟩ | ⟨g, k, -, inForce, inForce'⟩
  · rw [absent, absent']
  · rw [inForce, inForce']
    rfl

/-- Where one is in force, so is the one that corresponds to it. -/
theorem exists_current? : ∃ found : Pairing,
    (∀ pair ∈ found, paired pair.1 pair.2) ∧ w.current? m.project = found.map (·.1) ∧
      v.current? m.project = found.map (·.2) := by
  rcases h.current with ⟨absent, absent'⟩ | ⟨g, k, pair, inForce, inForce'⟩
  · refine ⟨none, ?_, absent, absent'⟩
    rintro _ ⟨⟩
  · refine ⟨some (g, k), ?_, inForce, inForce'⟩
    rintro _ ⟨⟩
    exact pair

theorem current?_iff (pair : paired g k) :
    w.current? m.project = some g ↔ v.current? m.project = some k := by
  rcases h.current with ⟨absent, absent'⟩ | ⟨g', k', other, inForce, inForce'⟩
  · rw [absent, absent']
    simp
  · rw [inForce, inForce', Option.some.injEq, Option.some.injEq]
    exact h.unique other pair

theorem isCurrent (pair : paired g k) : v.isCurrent k = w.isCurrent g := by
  obtain ⟨r, known, known', same, -⟩ := h.registration pair
  rw [Workspace.isCurrent, Workspace.isCurrent, known, known', Option.any_some, Option.any_some,
    same, Bool.eq_iff_iff, beq_iff_eq, beq_iff_eq]
  exact (h.current?_iff pair).symm

/-- The same change of two registrations that correspond to each other. -/
theorem modify (pair : paired g k) (f : Progress → Progress) :
    (w.modify g f).Mirrors m paired (v.modify k f) where
  config := h.config
  disk := h.disk
  source := h.source
  catalogue := h.catalogue
  unique := h.unique
  current := h.current
  registration := by
    intro g' k' pair'
    obtain ⟨r, known, known', same, within⟩ := h.registration pair'
    have both := h.unique pair pair'
    rw [registration?_modify, registration?_modify, known, known']
    by_cases here : g = g'
    · rw [if_pos here, if_pos (both.1 here)]
      exact ⟨r.modify f, rfl, rfl, same, within⟩
    · rw [if_neg here, if_neg (mt both.2 here)]
      exact ⟨r, rfl, rfl, same, within⟩

end Mirrors

/-- Change what was built for a registration, if there is one. -/
def modifyAt (w : Workspace) : Option Generation → (Progress → Progress) → Workspace
  | some g, f => w.modify g f
  | none, _ => w

theorem modifyAt_id (w : Workspace) (bound : Option Generation) : w.modifyAt bound id = w := by
  cases bound with
  | none => rfl
  | some g => exact w.modify_id g

namespace MirrorsAt

variable {bound : Pairing}

theorem registration (h : w.MirrorsAt m (some (g, k)) v) : ∃ r, w.registration? g = some r ∧
    v.registration? k = some r ∧ r.project = m.project ∧ r.binding.Within m := by
  obtain ⟨paired, mirrors, here⟩ := h
  exact mirrors.registration (here (g, k) rfl)

theorem isCurrent (h : w.MirrorsAt m (some (g, k)) v) : v.isCurrent k = w.isCurrent g := by
  obtain ⟨paired, mirrors, here⟩ := h
  exact mirrors.isCurrent (here (g, k) rfl)

theorem config (h : w.MirrorsAt m bound v) : v.config = w.config := by
  obtain ⟨paired, mirrors, -⟩ := h
  exact mirrors.config

theorem catalogue (h : w.MirrorsAt m bound v) {name : String} (own : m.declarations name = true) :
    v.catalogue name = w.catalogue name := by
  obtain ⟨paired, mirrors, -⟩ := h
  exact mirrors.catalogue name own

/-- Declarations of the realm name the same targets. -/
theorem targetsOf (h : w.MirrorsAt m bound v) {name : String} (own : m.declarations name = true) :
    v.targetsOf name = w.targetsOf name := by
  unfold Workspace.targetsOf
  rw [h.config, h.catalogue own]

theorem currentRegistration? (h : w.MirrorsAt m bound v) :
    v.currentRegistration? m.project = w.currentRegistration? m.project := by
  obtain ⟨paired, mirrors, -⟩ := h
  exact mirrors.currentRegistration?

theorem modify (h : w.MirrorsAt m (some (g, k)) v) (f : Progress → Progress) :
    (w.modify g f).MirrorsAt m (some (g, k)) (v.modify k f) := by
  obtain ⟨paired, mirrors, here⟩ := h
  exact ⟨paired, mirrors.modify (here (g, k) rfl) f, here⟩

end MirrorsAt

/-- Of all names, those of a project are its own if it is registered, and none otherwise. -/
theorem filter_projectNames (w : Workspace) (project : String) :
    w.projectNames.filter (· == project) =
      if (w.current? project).isSome then [project] else [] := by
  unfold projectNames
  rw [List.filter_beq, Std.ExtTreeMap.nodup_keys.count]
  have member : project ∈ w.registry.current.keys ↔ (w.current? project).isSome = true := by
    rw [Std.ExtTreeMap.mem_keys, Std.ExtTreeMap.mem_iff_isSome_getElem?]
    rfl
  by_cases registered : (w.current? project).isSome = true
  · rw [if_pos registered, if_pos (member.2 registered)]
    rfl
  · rw [if_neg registered, if_neg (mt member.1 registered)]
    rfl

/-! ### What is done to both -/

theorem source_modifySource (w : Workspace) (name other : String) (f : Source → Source) :
    (w.modifySource name f).source other =
      if name = other then f (w.source name) else w.source other := by
  by_cases same : name = other <;>
    simp [source, modifySource, Std.ExtTreeMap.getElem?_insert, same]

theorem catalogue_modifyCatalogue (w : Workspace) (name other : String)
    (f : Catalogue → Catalogue) :
    (w.modifyCatalogue name f).catalogue other =
      if name = other then f (w.catalogue name) else w.catalogue other := by
  by_cases same : name = other <;>
    simp [catalogue, modifyCatalogue, Std.ExtTreeMap.getElem?_insert, same]

namespace Mirrors

variable (h : w.Mirrors m paired v)
include h

theorem modifySource {name : String} (own : m.sources name = true) (f : Source → Source) :
    (w.modifySource name f).Mirrors m paired (v.modifySource name f) where
  config := h.config
  disk := h.disk
  catalogue := h.catalogue
  registration := h.registration
  unique := h.unique
  current := h.current
  source := by
    intro other isOwn
    rw [source_modifySource, source_modifySource, h.source name own, h.source other isOwn]

theorem modifyCatalogue {name : String} (own : m.declarations name = true)
    (f : Catalogue → Catalogue) :
    (w.modifyCatalogue name f).Mirrors m paired (v.modifyCatalogue name f) where
  config := h.config
  disk := h.disk
  source := h.source
  registration := h.registration
  unique := h.unique
  current := h.current
  catalogue := by
    intro other isOwn
    rw [catalogue_modifyCatalogue, catalogue_modifyCatalogue, h.catalogue name own,
      h.catalogue other isOwn]

/-- All but the registrations becomes as it is in another workspace. -/
theorem outside (u : Workspace) :
    { u with config := w.config, registry := w.registry }.Mirrors m paired
      { u with config := v.config, registry := v.registry } where
  config := h.config
  disk := rfl
  source := fun _ _ => rfl
  catalogue := fun _ _ => rfl
  registration := h.registration
  unique := h.unique
  current := h.current

/-- The index of the registration in force is dropped, under either number. -/
theorem dropped (pair : paired g k) : ∃ r,
    (if w.current? m.project = some g then (w.registration? g).map (·.modify Progress.dropIndex)
      else w.registration? g) = some r ∧
    (if v.current? m.project = some k then (v.registration? k).map (·.modify Progress.dropIndex)
      else v.registration? k) = some r ∧ r.project = m.project ∧ r.binding.Within m := by
  obtain ⟨r, known, known', same, within⟩ := h.registration pair
  rw [known, known']
  by_cases inForce : w.current? m.project = some g
  · rw [if_pos inForce, if_pos ((h.current?_iff pair).1 inForce)]
    exact ⟨r.modify Progress.dropIndex, rfl, rfl, same, within⟩
  · rw [if_neg inForce, if_neg (mt (h.current?_iff pair).2 inForce)]
    exact ⟨r, rfl, rfl, same, within⟩

/-- The project is registered: its new registrations correspond to each other too. -/
theorem register {b : Binding} (within : b.Within m) :
    (w.register m.project b).Mirrors m (fun g k => paired g k ∨ g = w.next ∧ k = v.next)
      (v.register m.project b) where
  config := h.config
  disk := h.disk
  source := h.source
  catalogue := h.catalogue
  current := by
    refine Or.inr ⟨w.next, v.next, Or.inr ⟨rfl, rfl⟩, ?_, ?_⟩
    · rw [current?_register, if_pos rfl]
    · rw [current?_register, if_pos rfl]
  unique := by
    -- the numbers of old registrations are less than those of the new ones
    have old : ∀ {g k : Generation}, paired g k → g < w.next ∧ k < v.next := by
      intro g k pair
      obtain ⟨r, known, known', -⟩ := h.registration pair
      exact ⟨w.lt_next (by rw [known]; rfl), v.lt_next (by rw [known']; rfl)⟩
    rintro g k g' k' (pair | ⟨rfl, rfl⟩) (pair' | ⟨rfl, rfl⟩)
    · exact h.unique pair pair'
    · exact iff_of_false (Nat.ne_of_lt (old pair).1) (Nat.ne_of_lt (old pair).2)
    · exact iff_of_false (Nat.ne_of_gt (old pair').1) (Nat.ne_of_gt (old pair').2)
    · exact iff_of_true rfl rfl
  registration := by
    rintro g k (pair | ⟨rfl, rfl⟩)
    · obtain ⟨r, known, known', -⟩ := h.registration pair
      rw [registration?_register, registration?_register,
        if_neg (Nat.ne_of_lt (w.lt_next (by rw [known]; rfl))),
        if_neg (Nat.ne_of_lt (v.lt_next (by rw [known']; rfl)))]
      exact h.dropped pair
    · rw [registration?_register, registration?_register, if_pos rfl, if_pos rfl]
      exact ⟨_, rfl, rfl, rfl, within⟩

/-- The project is forgotten. -/
theorem removeProject :
    (w.removeProject m.project).Mirrors m paired (v.removeProject m.project) where
  config := h.config
  disk := h.disk
  source := h.source
  catalogue := h.catalogue
  unique := h.unique
  current := by
    rw [current?_removeProject, current?_removeProject, if_pos rfl, if_pos rfl]
    exact Or.inl ⟨rfl, rfl⟩
  registration := by
    intro g k pair
    rw [registration?_removeProject, registration?_removeProject]
    exact h.dropped pair

end Mirrors

/-! ### What is done to one of them -/

/-- A change has nothing to do with a realm: what belongs to it is as it was. -/
structure Spares (m : Realm) (w u : Workspace) : Prop where
  config : u.config = w.config
  disk : u.disk = w.disk
  source : ∀ name, m.sources name = true → u.source name = w.source name
  catalogue : ∀ name, m.declarations name = true → u.catalogue name = w.catalogue name
  registration : ∀ {g : Generation} {r : Registration}, w.registration? g = some r →
    r.project = m.project → u.registration? g = some r
  current : u.current? m.project = w.current? m.project

theorem Mirrors.spared {u : Workspace} (h : w.Mirrors m paired v) (spares : w.Spares m u) :
    u.Mirrors m paired v where
  config := h.config.trans spares.config.symm
  disk := h.disk.trans spares.disk.symm
  source := fun name own => (h.source name own).trans (spares.source name own).symm
  catalogue := fun name own => (h.catalogue name own).trans (spares.catalogue name own).symm
  unique := h.unique
  current := by
    rw [spares.current]
    exact h.current
  registration := by
    intro g k pair
    obtain ⟨r, known, known', same, within⟩ := h.registration pair
    exact ⟨r, spares.registration known same, known', same, within⟩

namespace Spares

theorem refl (m : Realm) (w : Workspace) : w.Spares m w :=
  ⟨rfl, rfl, fun _ _ => rfl, fun _ _ => rfl, fun known _ => known, rfl⟩

theorem modifySource {name : String} (other : m.sources name = false) (f : Source → Source) :
    w.Spares m (w.modifySource name f) where
  config := rfl
  disk := rfl
  catalogue := fun _ _ => rfl
  registration := fun known _ => known
  current := rfl
  source := by
    intro named own
    have different : name ≠ named := ne_of_apply_ne m.sources (by simp [other, own])
    rw [source_modifySource, if_neg different]

theorem modifyCatalogue {name : String} (other : m.declarations name = false)
    (f : Catalogue → Catalogue) : w.Spares m (w.modifyCatalogue name f) where
  config := rfl
  disk := rfl
  source := fun _ _ => rfl
  registration := fun known _ => known
  current := rfl
  catalogue := by
    intro named own
    have different : name ≠ named := ne_of_apply_ne m.declarations (by simp [other, own])
    rw [catalogue_modifyCatalogue, if_neg different]

/-- A registration of another project is changed. -/
theorem modify {r : Registration} (known : w.registration? g = some r)
    (other : r.project ≠ m.project) (f : Progress → Progress) : w.Spares m (w.modify g f) where
  config := rfl
  disk := rfl
  source := fun _ _ => rfl
  catalogue := fun _ _ => rfl
  current := rfl
  registration := by
    intro k s knownS same
    have different : g ≠ k := by
      rintro rfl
      obtain rfl := Option.some.inj (known.symm.trans knownS)
      exact other same
    rw [w.registration?_modify_of_ne different]
    exact knownS

/-- A registration of one project is not in force for another. -/
theorem ne_current? {r : Registration} {other : String} (known : w.registration? g = some r)
    (different : other ≠ r.project) : w.current? other ≠ some g := by
  intro inForce
  obtain ⟨s, knownS, named⟩ := w.registry.registered inForce
  obtain rfl := Option.some.inj (known.symm.trans knownS)
  exact different named.symm

theorem register {other : String} (different : other ≠ m.project) (b : Binding) :
    w.Spares m (w.register other b) where
  config := rfl
  disk := rfl
  source := fun _ _ => rfl
  catalogue := fun _ _ => rfl
  current := by rw [current?_register, if_neg different]
  registration := by
    intro g r known same
    rw [registration?_register, if_neg (Nat.ne_of_lt (w.lt_next (by rw [known]; rfl))),
      if_neg (ne_current? known (same ▸ different))]
    exact known

theorem removeProject {other : String} (different : other ≠ m.project) :
    w.Spares m (w.removeProject other) where
  config := rfl
  disk := rfl
  source := fun _ _ => rfl
  catalogue := fun _ _ => rfl
  current := by rw [current?_removeProject, if_neg different]
  registration := by
    intro g r known same
    rw [registration?_removeProject, if_neg (ne_current? known (same ▸ different))]
    exact known

end Spares

end Workspace

end MixinIndex
