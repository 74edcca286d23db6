import MixinIndex.Proofs.Contribution.Reflecting
import MixinIndex.Proofs.Store.Edits

/-!
# Tending an index

The work of a request tends the index of its registration: as far as the index reflects the
declarations before a stretch of the work, it does so after it.  What happens between two stretches
is not in the hands of the work; declarations may change, and registrations be superseded.

## Main definitions

* `Workspace.Reflects`: the index of a registration reflects its declarations
* `Workspace.Orderly`: what holds of all indexes at any time
* `Workspace.Keeps`: no index is worse off than before
* `Work.Tends`: work that keeps all indexes as they are to be, with what holds at its end

## Main statements

* `Work.Tends.bind`: one piece of work after the other
* `Work.Tends.advance`: what is done at a stretch
* `Work.tends_built`: a registration is found in force and begun to be built, or it is superseded
* `Work.tends_event`: an event is applied to a registration in force, or it is superseded

## Design notes

That an index reflects the declarations cannot be said of the texts that its configs were read
from, which may have changed since.  So it is said of the types that the index itself lists.
-/

namespace MixinIndex

/-- Before its first build begins, an index is empty and not kept. -/
def Progress.IsOrderly (p : Progress) : Prop :=
  p.phase = .unloaded → p.index = {} ∧ p.isKept = false

namespace Workspace

/-! ### Indexes -/

/-- The index of a registration reflects its declarations, apart from some types. -/
def Reflects (w : Workspace) (g : Generation) (apart : TypeName → Prop) : Prop :=
  ∀ r, w.registration? g = some r →
    r.progress.index.Reflects (w.targetsOf r.binding.declarations) apart

theorem Reflects.mono {w : Workspace} {g : Generation} {apart apart' : TypeName → Prop}
    (h : w.Reflects g apart) (fewer : ∀ type, apart type → apart' type) : w.Reflects g apart' := by
  intro r known
  refine (h r known).mono fun type reflected => ⟨?_, rfl⟩
  intro before
  exact reflected (fewer type before)

theorem Reflects.and {w : Workspace} {g : Generation} {apart apart' : TypeName → Prop}
    (h : w.Reflects g apart) (h' : w.Reflects g apart') :
    w.Reflects g fun type => apart type ∧ apart' type :=
  fun r known => (h r known).and (h' r known)

/-- What holds of all indexes at any time: an index that is not yet built is empty, and all
applications are those of listed types. -/
structure Orderly (w : Workspace) : Prop where
  unbuilt : ∀ {g : Generation} {r : Registration}, w.registration? g = some r →
    r.progress.IsOrderly
  listed : ∀ g, w.Reflects g fun _ => True

/-- The index of a registration has begun to be built. -/
def Begun (w : Workspace) (g : Generation) : Prop :=
  ∃ r, w.registration? g = some r ∧ r.progress.phase ≠ .unloaded

theorem Begun.evolves {w v : Workspace} {g : Generation} (h : w.Begun g) (evolves : w.Evolves v) :
    v.Begun g := by
  obtain ⟨r, known, begun⟩ := h
  obtain ⟨r', known', -, -, begun'⟩ := evolves.registration known
  exact ⟨r', known', begun' begun⟩

/-- Declarations are as they were, and indexes reflect them as far as they did. -/
structure Keeps (w v : Workspace) : Prop where
  evolves : w.Evolves v
  catalogues : v.catalogues = w.catalogues
  unbuilt : (∀ {g : Generation} {r : Registration}, w.registration? g = some r →
    r.progress.IsOrderly) → ∀ {g : Generation} {r : Registration}, v.registration? g = some r →
      r.progress.IsOrderly
  reflects : ∀ {g : Generation} {apart : TypeName → Prop}, w.Reflects g apart → v.Reflects g apart

namespace Keeps

variable {w v u : Workspace}

theorem refl (w : Workspace) : w.Keeps w := ⟨.refl w, rfl, id, id⟩

theorem trans (h : w.Keeps v) (h' : v.Keeps u) : w.Keeps u where
  evolves := h.evolves.trans h'.evolves
  catalogues := h'.catalogues.trans h.catalogues
  unbuilt := fun orderly => h'.unbuilt (h.unbuilt orderly)
  reflects := fun reflects => h'.reflects (h.reflects reflects)

theorem orderly (h : w.Keeps v) (orderly : w.Orderly) : v.Orderly where
  unbuilt := h.unbuilt orderly.unbuilt
  listed := fun g => h.reflects (orderly.listed g)

/-- A change of one registration. -/
theorem modify (w : Workspace) (g : Generation) {f : Progress → Progress}
    (phase : ∀ p : Progress, p.phase ≠ .unloaded → (f p).phase ≠ .unloaded)
    (unbuilt : ∀ r, w.registration? g = some r → r.progress.IsOrderly → (f r.progress).IsOrderly)
    (reflects : ∀ r, w.registration? g = some r → ∀ apart,
      r.progress.index.Reflects (w.targetsOf r.binding.declarations) apart →
        (f r.progress).index.Reflects (w.targetsOf r.binding.declarations) apart) :
    w.Keeps (w.modify g f) where
  evolves := .modify w g phase
  catalogues := rfl
  unbuilt := by
    intro orderly k s known
    by_cases same : g = k
    · subst same
      rw [registration?_modify_self] at known
      obtain ⟨r, before, rfl⟩ := Option.map_eq_some_iff.1 known
      exact unbuilt r before (orderly before)
    · rw [w.registration?_modify_of_ne same] at known
      exact orderly known
  reflects := by
    intro k apart before s known
    by_cases same : g = k
    · subst same
      rw [registration?_modify_self] at known
      obtain ⟨r, knownR, rfl⟩ := Option.map_eq_some_iff.1 known
      exact reflects r knownR apart (before r knownR)
    · rw [w.registration?_modify_of_ne same] at known
      exact before s known

/-- A change that leaves index and phase as they are. -/
theorem modify_quiet (w : Workspace) (g : Generation) {f : Progress → Progress}
    (quiet : ∀ p : Progress, (f p).phase = p.phase ∧ (f p).index = p.index ∧
      ((f p).isKept = true → p.isKept = true)) : w.Keeps (w.modify g f) := by
  refine .modify w g (fun p begun => ?_) (fun r _ orderly unloaded => ?_) fun r _ apart before => ?_
  · rw [(quiet p).1]
    exact begun
  · obtain ⟨phase, index, kept⟩ := quiet r.progress
    rw [phase] at unloaded
    obtain ⟨empty, unkept⟩ := orderly unloaded
    refine ⟨index.trans empty, ?_⟩
    rw [Bool.eq_false_iff]
    intro still
    rw [kept still] at unkept
    cases unkept
  · rw [(quiet r.progress).2.1]
    exact before

/-- A change of an index that has begun to be built. -/
theorem modifyIndex {g : Generation} (begun : w.Begun g) {f : Index → Index}
    (reflects : ∀ r, w.registration? g = some r → ∀ apart,
      r.progress.index.Reflects (w.targetsOf r.binding.declarations) apart →
        (f r.progress.index).Reflects (w.targetsOf r.binding.declarations) apart) :
    w.Keeps (w.modify g (Progress.modifyIndex f)) := by
  refine .modify w g (fun _ => id) (fun r known _ unloaded => ?_) reflects
  obtain ⟨s, knownS, loading⟩ := begun
  obtain rfl := Option.some.inj (known.symm.trans knownS)
  exact absurd unloaded loading

theorem beginBuild (w : Workspace) (g : Generation) : w.Keeps (w.modify g Progress.beginBuild) := by
  refine .modify w g (fun p _ => ?_) (fun r _ _ unloaded => ?_) fun r _ apart _ => ?_
  · simp [Progress.beginBuild]
  · cases unloaded
  · exact Index.reflects_empty _ apart

theorem endBuild (w : Workspace) (g : Generation) (environment : Environment) :
    w.Keeps (w.modify g (Progress.endBuild environment)) := by
  refine .modify w g (fun p _ => ?_) (fun r _ _ unloaded => ?_) fun r _ apart before => ?_
  · simp [Progress.endBuild]
  · cases unloaded
  · exact before.markLoaded

end Keeps

end Workspace

/-! ### Work that tends indexes -/

namespace Work

variable {α β : Type}

/-- Work tends the indexes if they are no worse off after each of its changes, and if it ends as is
required, whatever happens where it can be interrupted. -/
def Tends (Q : Option Generation → α → Workspace → Prop) :
    Work α → Option Generation → Workspace → Prop
  | done a, bound, w => Q bound a w
  | look next, bound, w => Tends Q (next w) bound w
  | change f next, bound, w => w.Keeps (f w) ∧ Tends Q next bound (f w)
  | resolve project next, _, w => ∀ v, w.Evolves v → v.Orderly →
    Tends Q (next (v.current? project)) (v.current? project) v
  | .read _ _ next, bound, w => ∀ v, w.Evolves v → v.Orderly → ∀ resource,
    Tends Q (next resource) bound v
  | wait ready next, bound, w => ∀ v, w.Evolves v → v.Orderly → ready v = true →
    Tends Q next bound v
  | restart, _, _ => True

theorem Tends.bind {Q : Option Generation → β → Workspace → Prop} {f : α → Work β}
    {work : Work α} {bound : Option Generation} {w : Workspace}
    (h : Tends (fun bound a v => Tends Q (f a) bound v) work bound w) :
    Tends Q (work >>= f) bound w := by
  change Tends Q (work.bind f) bound w
  induction work generalizing bound w with
  | done a => exact h
  | look next ih => exact ih w h
  | change g next ih => exact ⟨h.1, ih h.2⟩
  | resolve project next ih => exact fun v evolves orderly => ih _ (h v evolves orderly)
  | read source path next ih =>
      exact fun v evolves orderly resource => ih resource (h v evolves orderly resource)
  | wait ready next ih => exact fun v evolves orderly now => ih (h v evolves orderly now)
  | restart => exact h

variable {Q Q' : Option Generation → α → Workspace → Prop} {work : Work α}
  {bound : Option Generation} {w v : Workspace}

theorem Tends.mono (h : Tends Q work bound w) (weaker : ∀ bound a v, Q bound a v → Q' bound a v) :
    Tends Q' work bound w := by
  induction work generalizing bound w with
  | done a => exact weaker bound a w h
  | look next ih => exact ih w h
  | change f next ih => exact ⟨h.1, ih h.2⟩
  | resolve project next ih => exact fun v evolves orderly => ih _ (h v evolves orderly)
  | read source path next ih =>
      exact fun v evolves orderly resource => ih resource (h v evolves orderly resource)
  | wait ready next ih => exact fun v evolves orderly now => ih (h v evolves orderly now)
  | restart => exact h

/-- What is done at a stretch keeps all indexes, and what remains tends them. -/
theorem Tends.advance (h : Tends Q work bound w) :
    w.Keeps (work.advance w).2 ∧ Tends Q (work.advance w).1 bound (work.advance w).2 := by
  induction work generalizing w with
  | look next ih => exact ih w h
  | change f next ih =>
      obtain ⟨keeps, rest⟩ := h
      obtain ⟨keeps', rest'⟩ := ih rest
      exact ⟨keeps.trans keeps', rest'⟩
  | done | resolve | read | wait | restart => exact ⟨.refl w, h⟩

/-- What suspended work does when it goes on does not depend on what has happened meanwhile. -/
theorem Tends.stable (h : Tends Q work bound w) (suspended : work.isSuspended = true)
    (evolves : w.Evolves v) : Tends Q work bound v := by
  cases work with
  | done | look | change => cases suspended
  | resolve project next => exact fun u evolves' => h u (evolves.trans evolves')
  | read source path next => exact fun u evolves' => h u (evolves.trans evolves')
  | wait ready next => exact fun u evolves' => h u (evolves.trans evolves')
  | restart => exact h

/-! ### Single steps -/

variable {g : Generation} {project : String} {b : Binding}

/-- Work for a registration finds it, with its project and binding, in an orderly workspace. -/
structure Attends (g : Generation) (project : String) (b : Binding) (w : Workspace) : Prop where
  orderly : w.Orderly
  registration : ∃ r, w.registration? g = some r ∧ r.project = project ∧ r.binding = b

theorem Attends.evolves (h : Attends g project b w) (evolves : w.Evolves v)
    (orderly : v.Orderly) : Attends g project b v := by
  obtain ⟨r, known, rfl, rfl⟩ := h.registration
  obtain ⟨r', known', same, sameBinding, -⟩ := evolves.registration known
  exact ⟨orderly, r', known', same, sameBinding⟩

theorem Attends.keeps (h : Attends g project b w) (keeps : w.Keeps v) : Attends g project b v :=
  h.evolves keeps.evolves (keeps.orderly h.orderly)

/-- A registration is in force for its project or not at all. -/
theorem Attends.isCurrent_iff (h : Attends g project b w) :
    w.isCurrent g = true ↔ w.current? project = some g := by
  obtain ⟨r, known, rfl, -⟩ := h.registration
  rw [Workspace.isCurrent, known, Option.any_some, beq_iff_eq]

/-- Work that changes the progress of a registration and does not stop. -/
theorem tends_modify {Q : Option Generation → Unit → Workspace → Prop}
    {f : Workspace → Progress → Progress} (h : Attends g project b w)
    (keeps : w.Keeps (w.modify g (f w)))
    (post : Attends g project b (w.modify g (f w)) → Q bound () (w.modify g (f w))) :
    Tends Q (modify g f) bound w :=
  ⟨keeps, post (h.keeps keeps)⟩

/-! ### Configs -/

/-- Reading configs keeps an index; if there are none to read, nothing happens. -/
theorem tends_loadConfigs {Q : Option Generation → Unit → Workspace → Prop} {source : String}
    (configs : List String) (h : Attends g project b w) (begun : w.Begun g)
    (post : ∀ v, w.Evolves v → Attends g project b v → (configs = [] → v = w) → Q bound () v) :
    Tends Q (loadConfigs g b.declarations source configs) bound w := by
  induction configs generalizing w with
  | nil => exact post w (.refl w) h fun _ => rfl
  | cons config configs ih =>
      refine .bind fun v evolves orderly resource => ?_
      have attends := h.evolves evolves orderly
      have loaded : v.Keeps (v.modify g (Progress.modifyIndex (·.tryLoad v.config.annotations
          (v.catalogue b.declarations) config resource))) := by
        refine .modifyIndex (begun.evolves evolves) fun r known apart reflects => ?_
        obtain ⟨s, knownS, -, sameBinding⟩ := attends.registration
        obtain rfl := Option.some.inj (known.symm.trans knownS)
        rw [← sameBinding]
        exact reflects.tryLoad config resource
      refine .bind (tends_modify attends loaded fun attends' => ?_)
      have evolves' := evolves.trans loaded.evolves
      refine ih attends' (begun.evolves evolves') fun u evolves'' attends'' _ => ?_
      exact post u (evolves'.trans evolves'') attends'' fun empty => by cases empty

theorem tends_loadMods {Q : Option Generation → Unit → Workspace → Prop} (mods : List LoadedMod)
    (h : Attends g project b w) (begun : w.Begun g)
    (post : ∀ v, w.Evolves v → Attends g project b v → Q bound () v) :
    Tends Q (loadMods g b.declarations mods) bound w := by
  induction mods generalizing w with
  | nil => exact post w (.refl w) h
  | cons mod mods ih =>
      refine .bind (tends_loadConfigs _ h begun fun v evolves attends _ => ?_)
      refine ih attends (begun.evolves evolves) fun u evolves' attends' => ?_
      exact post u (evolves.trans evolves') attends'

/-! ### Builds -/

theorem tends_discoverMod {Q : Option Generation → Option LoadedMod → Workspace → Prop}
    {source : String} (h : Attends g project b w)
    (post : ∀ v, w.Evolves v → Attends g project b v → ∀ found, Q bound found v) :
    Tends Q (discoverMod source) bound w := by
  refine .bind (.bind fun v evolves orderly resource => ?_)
  exact post v evolves (h.evolves evolves orderly) _

theorem tends_discoverMods {Q : Option Generation → List LoadedMod → Workspace → Prop}
    (sources : List String) (h : Attends g project b w)
    (post : ∀ v, w.Evolves v → Attends g project b v → ∀ mods, Q bound mods v) :
    Tends Q (discoverMods sources) bound w := by
  induction sources generalizing w Q with
  | nil => exact post w (.refl w) h []
  | cons source sources ih =>
      refine .bind (tends_discoverMod h fun v evolves attends found => ?_)
      refine .bind (ih attends fun u evolves' attends' mods => ?_)
      exact post u (evolves.trans evolves') attends' _

theorem tends_discover {Q : Option Generation → Environment → Workspace → Prop}
    (h : Attends g project b w)
    (post : ∀ v, w.Evolves v → Attends g project b v → ∀ environment, Q bound environment v) :
    Tends Q (discover b) bound w := by
  refine .bind (tends_discoverMod h fun v evolves attends own => ?_)
  refine .bind (tends_discoverMods b.classpath attends fun u evolves' attends' mods => ?_)
  exact post u (evolves.trans evolves') attends' ⟨own, mods⟩

/-- A build begins with an empty index, and from then on it has begun. -/
theorem tends_build {Q : Option Generation → Unit → Workspace → Prop} (h : Attends g project b w)
    (post : ∀ v, w.Evolves v → Attends g project b v → v.Begun g → Q bound () v) :
    Tends Q (build g b) bound w := by
  have begins := Workspace.Keeps.beginBuild w g
  refine .bind (tends_modify h begins fun attends => ?_)
  have begun : (w.modify g Progress.beginBuild).Begun g := by
    obtain ⟨r, known, -, -⟩ := h.registration
    refine ⟨r.modify Progress.beginBuild, ?_, by simp [Registration.modify, Progress.beginBuild]⟩
    rw [Workspace.registration?_modify_self, known]
    rfl
  refine .bind (tends_discover attends fun v evolves attends environment => ?_)
  refine .bind (tends_loadMods environment.mods attends (begun.evolves evolves)
    fun u evolves' attends => ?_)
  have ends := Workspace.Keeps.endBuild u g environment
  refine tends_modify attends ends fun attends => ?_
  have later := (evolves.trans evolves').trans ends.evolves
  exact post _ (begins.evolves.trans later) attends (begun.evolves later)

/-- Once it has been seen to, an index has begun to be built. -/
theorem tends_ensureBuilt {Q : Option Generation → Unit → Workspace → Prop}
    (h : Attends g project b w)
    (post : ∀ v, w.Evolves v → Attends g project b v → v.Begun g → Q bound () v) :
    Tends Q (ensureBuilt g) bound w := by
  obtain ⟨r, known, sameProject, sameBinding⟩ := h.registration
  refine .bind ?_
  rw [workspace, Tends, Tends, known]
  by_cases kept : r.progress.isKept = true
  · simp only [kept, if_true]
    refine post w (.refl w) h ⟨r, known, fun unloaded => ?_⟩
    obtain ⟨-, unkept⟩ := h.orderly.unbuilt known unloaded
    rw [kept] at unkept
    cases unkept
  by_cases loading : r.progress.phase = .loading
  · simp only [kept, loading, if_true]
    have begun : w.Begun g := ⟨r, known, by simp [loading]⟩
    intro v evolves orderly _
    exact post v evolves (h.evolves evolves orderly) (begun.evolves evolves)
  · simp only [kept, loading, if_false]
    rw [sameBinding]
    exact tends_build h post

/-- A registration that was asked for is in force and has begun to be built, or it is superseded. -/
theorem tends_built {Q : Option Generation → Option Registration → Workspace → Prop}
    (h : Attends g project b w)
    (inForce : ∀ v r, w.Evolves v → Attends g project b v → v.Begun g →
      v.current? project = some g → v.registration? g = some r → Q bound (some r) v)
    (superseded : ∀ v, w.Evolves v → Attends g project b v → v.current? project ≠ some g →
      Q bound none v) :
    Tends Q (built g) bound w := by
  refine .bind (tends_ensureBuilt h fun v evolves attends begun => ?_)
  change Tends Q (if v.isCurrent g then .done (v.registration? g)
    else modify g (fun _ => Progress.dropIndex) >>= fun _ => .done none) bound v
  by_cases current : v.isCurrent g = true
  · obtain ⟨r, known, -, -⟩ := attends.registration
    rw [if_pos current, known]
    exact inForce v r evolves attends begun (attends.isCurrent_iff.1 current) known
  · rw [if_neg current]
    have dropped : v.Keeps (v.modify g Progress.dropIndex) :=
      .modify_quiet v g fun p => ⟨rfl, rfl, fun kept => by cases kept⟩
    refine .bind (tends_modify attends dropped fun attends' => ?_)
    refine superseded _ (evolves.trans dropped.evolves) attends' fun again => ?_
    exact current (attends.isCurrent_iff.2 again)

/-! ### Projects and events -/

theorem tends_forProject {f : Generation → Work (Except Failure α)}
    {Q : Option Generation → Except Failure α → Workspace → Prop}
    (absent : ∀ v, v.current? project = none → Q none (.error (.projectNotFound project)) v)
    (tends : ∀ v g b, v.current? project = some g → Attends g project b v →
      Tends Q (f g) (some g) v) :
    Tends Q (forProject project f) bound w := by
  intro v _ orderly
  cases found : v.current? project with
  | none => exact absent v found
  | some g =>
      obtain ⟨r, known, same⟩ := v.registry.registered found
      exact tends v g r.binding found ⟨orderly, r, known, same, rfl⟩

/-- An event does its own work on a registration in force that has begun to be built, and ends in
the same way whether it was done or not. -/
theorem tends_event {f : Registration → Work α}
    {Q : Option Generation → Except Failure α → Workspace → Prop} (h : Attends g project b w)
    (superseded : ∀ v, v.current? project ≠ some g →
      Q bound (.error (.projectNotFound project)) v)
    (own : ∀ v r, Attends g project b v → v.Begun g → v.current? project = some g →
      v.registration? g = some r → Tends (fun bound a u => Attends g project b u ∧
        Q bound (.ok a) (u.modify g Progress.unlock)) (f r) bound v) :
    Tends Q (event g project f) bound w := by
  have unlocked (u : Workspace) : u.Keeps (u.modify g Progress.unlock) :=
    .modify_quiet u g fun p => ⟨rfl, rfl, id⟩
  have locked (u : Workspace) : u.Keeps (u.modify g Progress.lock) :=
    .modify_quiet u g fun p => ⟨rfl, rfl, id⟩
  intro v evolves orderly _
  have attends := h.evolves evolves orderly
  change Tends Q (modify g (fun _ => Progress.lock) >>= _) bound v
  refine .bind (tends_modify attends (locked v) fun attends => ?_)
  refine .bind (.bind (tends_built attends (fun u r _ attends begun inForce known => ?_) ?_))
  · refine .bind ((own u r attends begun inForce known).mono fun bound a u ends => ?_)
    exact .bind (tends_modify ends.1 (unlocked u) fun _ => ends.2)
  · intro u _ attends gone
    exact .bind (tends_modify attends (unlocked u) fun _ => superseded _ gone)

end Work

end MixinIndex
