import MixinIndex.Proofs.Store.Edits

/-!
# Requests are safe

Every request about a project first finds out which registration is in force, and from there on
works for this one safely: it builds its index if necessary, and an index that it answers with is
in force and complete.

## Main definitions

* `Work.Serves`: work for a registration finds it in a sound workspace
* `Workspace.Complete`: the index of a registration is loaded
* `Work.Kept`: work that is for its registration to the end
* `Operation.Delivers`: an index that is the answer is in force

## Main statements

* `Work.safe_build`: a build is safe
* `Work.safe_built`: what is found to be built is in force and complete
* `Work.safe_event`: an event is safe if its own work is
* `Operation.safe`: all requests are safe
-/

namespace MixinIndex

/-- The index of a registration is loaded. -/
def Workspace.Complete (w : Workspace) (g : Generation) : Prop :=
  ∃ r, w.registration? g = some r ∧ r.progress.phase = .loaded

namespace Work

variable {α : Type} {E : Evidence} {granted : Generation → Prop} {g : Generation}
  {project : String} {b : Binding} {w v : Workspace}

/-- Work for a registration finds it, with its project and binding, in a sound workspace. -/
structure Serves (E : Evidence) (g : Generation) (project : String) (b : Binding) (w : Workspace) :
    Prop where
  sound : w.Sound E
  registration : ∃ r, w.registration? g = some r ∧ r.project = project ∧ r.binding = b

theorem Serves.evolves (h : Serves E g project b w) (evolves : w.Evolves v) (sound : v.Sound E) :
    Serves E g project b v := by
  obtain ⟨r, known, rfl, rfl⟩ := h.registration
  obtain ⟨r', known', same, sameBinding, -⟩ := evolves.registration known
  exact ⟨sound, r', known', same, sameBinding⟩

/-! ### Single steps -/

/-- A change of the progress is safe if it keeps it stemming from the evidence, and keeps an index
in force as soon as it is loaded. -/
theorem safe_modify {Q : Option Generation → Unit → Workspace → Prop}
    (h : Serves E g project b w) {f : Workspace → Progress → Progress}
    (phase : ∀ p : Progress, p.phase ≠ .unloaded → (f w p).phase ≠ .unloaded)
    (stems : ∀ p : Progress, p.Stems E w.config.metadataFile g b →
      (f w p).Stems E w.config.metadataFile g b)
    (kept : ∀ r, w.registration? g = some r → w.isCurrent g = true →
      (r.progress.isKept = true ↔ r.progress.phase = .loaded) →
        ((f w r.progress).isKept = true ↔ (f w r.progress).phase = .loaded))
    (post : w.Evolves (w.modify g (f w)) → Serves E g project b (w.modify g (f w)) →
      Q (some g) () (w.modify g (f w))) :
    Safe E granted Q (modify g f) (some g) w := by
  obtain ⟨r, known, sameProject, rfl⟩ := h.registration
  have evolves : w.Evolves (w.modify g (f w)) := .modify w g phase
  have sound : (w.modify g (f w)).Sound E :=
    h.sound.modify known (stems r.progress (h.sound.stems known))
      fun current => kept r known current (h.sound.kept known current)
  exact ⟨⟨f w, rfl⟩, evolves, sound, post evolves (h.evolves evolves sound)⟩

/-- The same for a change that leaves the phase as it is, and what is kept. -/
theorem safe_modify_quiet {Q : Option Generation → Unit → Workspace → Prop}
    (h : Serves E g project b w) {f : Workspace → Progress → Progress}
    (quiet : ∀ p : Progress, (f w p).phase = p.phase ∧ (f w p).isKept = p.isKept)
    (stems : ∀ p : Progress, p.Stems E w.config.metadataFile g b →
      (f w p).Stems E w.config.metadataFile g b)
    (post : w.Evolves (w.modify g (f w)) → Serves E g project b (w.modify g (f w)) →
      Q (some g) () (w.modify g (f w))) :
    Safe E granted Q (modify g f) (some g) w := by
  refine safe_modify h (fun p => ?_) stems (fun r _ _ kept => ?_) post
  · rw [(quiet p).1]
    exact id
  · rw [(quiet r.progress).1, (quiet r.progress).2]
    exact kept

/-- A reading from a source of the binding is safe. -/
theorem safe_resource {Q : Option Generation → Except Failure String → Workspace → Prop}
    (h : Serves E g project b w) {source path : String} (own : source ∈ b.sources)
    (post : ∀ v, w.Evolves v → Serves E g project b v → ∀ resource,
      E.read g source path resource → Q (some g) resource v) :
    Safe E granted Q (resource source path) (some g) w := by
  obtain ⟨r, known, sameProject, rfl⟩ := h.registration
  exact ⟨⟨r, known, own⟩, fun v evolves sound resource read =>
    post v evolves (h.evolves evolves sound) resource read⟩

/-! ### Configs -/

theorem safe_loadConfigs {Q : Option Generation → Unit → Workspace → Prop} {source : String}
    (configs : List String) (h : Serves E g project b w) (own : source ∈ b.sources)
    (post : ∀ v, w.Evolves v → Serves E g project b v → Q (some g) () v) :
    Safe E granted Q (loadConfigs g b.declarations source configs) (some g) w := by
  induction configs generalizing w with
  | nil => exact post w (.refl w) h
  | cons config configs ih =>
      refine .bind (safe_resource h own fun v evolves serves resource read => ?_)
      refine .bind (safe_modify_quiet serves (fun p => ⟨rfl, rfl⟩) (fun p stems => ?_) ?_)
      · refine stems.tryLoad own read fun type target named => ?_
        obtain ⟨r, known, -, -⟩ := serves.registration
        exact serves.sound.seen (Option.isSome_iff_exists.2 ⟨r, known⟩) _ type target named
      · intro evolves' serves'
        refine ih serves' fun u evolves'' serves'' => ?_
        exact post u ((evolves.trans evolves').trans evolves'') serves''

theorem safe_loadMods {Q : Option Generation → Unit → Workspace → Prop} (mods : List LoadedMod)
    (h : Serves E g project b w) (own : ∀ mod ∈ mods, mod.source ∈ b.sources)
    (post : ∀ v, w.Evolves v → Serves E g project b v → Q (some g) () v) :
    Safe E granted Q (loadMods g b.declarations mods) (some g) w := by
  induction mods generalizing w with
  | nil => exact post w (.refl w) h
  | cons mod mods ih =>
      refine .bind (safe_loadConfigs _ h (own mod List.mem_cons_self) fun v evolves serves => ?_)
      refine ih serves (fun other member => own other (List.mem_cons_of_mem _ member)) ?_
      exact fun u evolves' serves' => post u (evolves.trans evolves') serves'

/-! ### Mods -/

theorem source_of_ofResource? {source : String} {resource : Except Failure String}
    {mod : LoadedMod} (found : LoadedMod.ofResource? source resource = some mod) :
    mod.source = source := by
  cases resource with
  | error failure => cases found
  | ok text =>
      rw [LoadedMod.ofResource?] at found
      cases read : Metadata.ofText text with
      | error failure =>
          rw [read] at found
          cases found
      | ok metadata =>
          rw [read] at found
          obtain rfl := Option.some.inj found
          rfl

theorem safe_discoverMod {Q : Option Generation → Option LoadedMod → Workspace → Prop}
    {source : String} (h : Serves E g project b w) (own : source ∈ b.sources)
    (post : ∀ v, w.Evolves v → Serves E g project b v → ∀ found : Option LoadedMod,
      (∀ mod, found = some mod → mod.source = source ∧ E.Finds g w.config.metadataFile mod) →
        Q (some g) found v) :
    Safe E granted Q (discoverMod source) (some g) w := by
  refine .bind (.bind (safe_resource h own fun v evolves serves resource read => ?_))
  refine post v evolves serves _ fun mod found => ?_
  have same := source_of_ofResource? found
  subst same
  exact ⟨rfl, resource, read, found⟩

theorem safe_discoverMods {Q : Option Generation → List LoadedMod → Workspace → Prop}
    (sources : List String) (h : Serves E g project b w) (own : ∀ source ∈ sources,
      source ∈ b.sources)
    (post : ∀ v, w.Evolves v → Serves E g project b v → ∀ mods : List LoadedMod,
      (∀ mod ∈ mods, mod.source ∈ sources ∧ E.Finds g w.config.metadataFile mod) →
        Q (some g) mods v) :
    Safe E granted Q (discoverMods sources) (some g) w := by
  induction sources generalizing w Q with
  | nil =>
      refine post w (.refl w) h [] fun mod member => ?_
      cases member
  | cons source sources ih =>
      refine .bind (safe_discoverMod h (own source List.mem_cons_self) ?_)
      intro v evolves serves found finds
      refine .bind (ih serves (fun other member => own other (List.mem_cons_of_mem _ member)) ?_)
      intro u evolves' serves' mods findsAll
      refine post u (evolves.trans evolves') serves' _ fun mod member => ?_
      rcases List.mem_append.1 member with first | later
      · obtain ⟨same, finds⟩ := finds mod (Option.mem_toList.1 first)
        exact ⟨same ▸ List.mem_cons_self, finds⟩
      · obtain ⟨among, finds⟩ := findsAll mod later
        rw [evolves.config] at finds
        exact ⟨List.mem_cons_of_mem _ among, finds⟩

theorem safe_discover {Q : Option Generation → Environment → Workspace → Prop}
    (h : Serves E g project b w)
    (post : ∀ v, w.Evolves v → Serves E g project b v → ∀ environment : Environment,
      (∀ mod, environment.project = some mod →
        mod.source = b.source ∧ E.Finds g w.config.metadataFile mod) →
      (∀ mod ∈ environment.classpath,
        mod.source ∈ b.classpath ∧ E.Finds g w.config.metadataFile mod) →
        Q (some g) environment v) :
    Safe E granted Q (discover b) (some g) w := by
  refine .bind (safe_discoverMod h List.mem_cons_self fun v evolves serves own finds => ?_)
  refine .bind (safe_discoverMods b.classpath serves (fun _ => List.mem_cons_of_mem _) ?_)
  intro u evolves' serves' mods findsAll
  refine post u (evolves.trans evolves') serves' ⟨own, mods⟩ finds fun mod member => ?_
  rw [← evolves.config]
  exact findsAll mod member

/-! ### Builds -/

/-- A build is safe if the index is not kept when it begins. -/
theorem safe_build {Q : Option Generation → Unit → Workspace → Prop} (h : Serves E g project b w)
    (lost : ∀ r, w.registration? g = some r → r.progress.isKept = false)
    (post : ∀ v, w.Evolves v → Serves E g project b v → v.Complete g → Q (some g) () v) :
    Safe E granted Q (build g b) (some g) w := by
  refine .bind (safe_modify h (fun p _ => by simp [Progress.beginBuild])
    (fun p stems => stems.beginBuild) (fun r known _ _ => ?_) fun begun serves => ?_)
  · simp [Progress.beginBuild, lost r known]
  refine .bind (safe_discover serves fun v evolves serves environment own others => ?_)
  refine .bind (safe_loadMods environment.mods serves (fun mod member => ?_) ?_)
  · rcases List.mem_append.1 member with first | later
    · rw [(own mod (Option.mem_toList.1 first)).1]
      exact List.mem_cons_self
    · exact List.mem_cons_of_mem _ (others mod later).1
  intro u evolves' serves
  -- the mods were found with the metadata file name of an earlier workspace
  have config : u.config.metadataFile = (w.modify g Progress.beginBuild).config.metadataFile := by
    rw [evolves'.config, evolves.config]
  refine safe_modify serves (fun p _ => by simp [Progress.endBuild]) (fun p stems => ?_)
    (fun r _ _ _ => by simp [Progress.endBuild]) fun ended serves' => ?_
  · refine stems.endBuild ?_ ?_
    · rw [config]
      exact own
    · rw [config]
      exact others
  · refine post _ (((begun.trans evolves).trans evolves').trans ended) serves' ?_
    obtain ⟨r, known, -, -⟩ := serves.registration
    refine ⟨r.modify (Progress.endBuild environment), ?_, rfl⟩
    rw [Workspace.registration?_modify_self, known]
    rfl

/-- An index in force is loaded once it has been seen to. -/
theorem safe_ensureBuilt {Q : Option Generation → Unit → Workspace → Prop}
    (h : Serves E g project b w)
    (post : ∀ v, w.Evolves v → Serves E g project b v → (v.isCurrent g = true → v.Complete g) →
      Q (some g) () v) :
    Safe E granted Q (ensureBuilt g) (some g) w := by
  obtain ⟨r, known, sameProject, sameBinding⟩ := h.registration
  refine .bind ?_
  rw [workspace, Safe, Safe, known]
  by_cases kept : r.progress.isKept = true
  · simp only [kept, if_true]
    exact post w (.refl w) h fun current => ⟨r, known, (h.sound.kept known current).1 kept⟩
  by_cases loading : r.progress.phase = .loading
  · simp only [kept, loading, if_true]
    -- somebody else is building, and has begun, so the index cannot be unloaded afterwards
    intro v evolves sound ready
    refine post v evolves (h.evolves evolves sound) fun _ => ?_
    obtain ⟨r', known', -, -, begun⟩ := evolves.registration known
    refine ⟨r', known', ?_⟩
    have notUnloaded : r'.progress.phase ≠ .unloaded := begun (by simp [loading])
    have notLoading : r'.progress.phase ≠ .loading := by
      intro still
      simp [Workspace.isLoading, known', still] at ready
    cases reached : r'.progress.phase with
    | unloaded => exact absurd reached notUnloaded
    | loading => exact absurd reached notLoading
    | loaded => rfl
  · simp only [kept, loading, if_false]
    rw [sameBinding]
    refine safe_build h (fun s knownS => ?_) fun v evolves serves complete =>
      post v evolves serves fun _ => complete
    rw [known, Option.some.injEq] at knownS
    rw [← knownS]
    simpa using kept

/-- What is found to be built is in force, complete, and kept. -/
theorem safe_built {Q : Option Generation → Option Registration → Workspace → Prop}
    (h : Serves E g project b w)
    (post : ∀ v, w.Evolves v → Serves E g project b v → ∀ result : Option Registration,
      (∀ r, result = some r → v.isCurrent g = true ∧ v.registration? g = some r ∧
        r.progress.phase = .loaded ∧ r.progress.isKept = true) → Q (some g) result v) :
    Safe E granted Q (built g) (some g) w := by
  refine .bind (safe_ensureBuilt h fun v evolves serves complete => ?_)
  change Safe E granted Q (if v.isCurrent g then .done (v.registration? g)
    else modify g (fun _ => Progress.dropIndex) >>= fun _ => .done none) (some g) v
  by_cases current : v.isCurrent g = true
  · rw [if_pos current]
    refine post v evolves serves _ fun r known => ?_
    obtain ⟨r', known', loaded⟩ := complete current
    rw [known, Option.some.injEq] at known'
    rw [← known'] at loaded
    exact ⟨current, known, loaded, (serves.sound.kept known current).2 loaded⟩
  · -- once out of force a registration stays so, and its index may be dropped
    rw [if_neg current]
    refine .bind (safe_modify serves (fun p begun => begun) (fun p stems => stems.dropIndex)
      (fun r _ now _ => absurd now current) fun dropped serves' => ?_)
    exact post _ (evolves.trans dropped) serves' none fun r impossible => by cases impossible

/-! ### Projects -/

/-- Work for the registration that is in force for a project is safe if it is safe for each. -/
theorem safe_forProject {f : Generation → Work (Except Failure α)}
    {Q : Option Generation → Except Failure α → Workspace → Prop}
    (absent : ∀ v, Q none (.error (.projectNotFound project)) v)
    (safe : ∀ v g b, granted g → Serves E g project b v → Safe E granted Q (f g) (some g) v) :
    Safe E granted Q (forProject project f) none w := by
  intro v _ sound grant
  cases found : v.current? project with
  | none => exact absent v
  | some g =>
      obtain ⟨r, known, same⟩ := v.registry.registered found
      exact safe v g r.binding (grant g found) ⟨sound, r, known, same, rfl⟩

/-- Work for a registration that is in force and built. -/
theorem safe_onceBuilt {f : Registration → Work α}
    {Q : Option Generation → Except Failure α → Workspace → Prop} (h : Serves E g project b w)
    (absent : ∀ v, Serves E g project b v → Q (some g) (.error (.projectNotFound project)) v)
    (safe : ∀ v r, Serves E g project b v → r.binding = b →
      Safe E granted (fun bound a => Q bound (.ok a)) (f r) (some g) v) :
    Safe E granted Q (onceBuilt g project f) (some g) w := by
  refine .bind (safe_built h fun v evolves serves result built => ?_)
  cases result with
  | none => exact absent v serves
  | some r =>
      obtain ⟨r', known', -, sameBinding⟩ := serves.registration
      obtain ⟨-, known, -⟩ := built r rfl
      rw [known', Option.some.injEq] at known
      rw [known] at sameBinding
      exact .bind (safe v r serves sameBinding)

/-! ### Events -/

/-- The work is for the same registration to its end. -/
def Kept (E : Evidence) (g : Generation) (project : String) (b : Binding) {α : Type} :
    Option Generation → α → Workspace → Prop :=
  fun bound _ v => bound = some g ∧ Serves E g project b v

/-- An event is safe if its own work is. -/
theorem safe_event {f : Registration → Work α} (h : Serves E g project b w)
    (safe : ∀ v r, Serves E g project b v → r.binding = b →
      Safe E granted (Kept E g project b) (f r) (some g) v) :
    Safe E granted (Kept E g project b) (event g project f) (some g) w := by
  intro v evolves sound _
  change Safe E granted (Kept E g project b) (modify g (fun _ => Progress.lock) >>= _) (some g) v
  refine .bind (safe_modify_quiet (h.evolves evolves sound) (fun p => ⟨rfl, rfl⟩)
    (fun p stems => stems.lock) fun _ serves => ?_)
  -- the event is over in every case, whether its work was done or not
  have unlock : ∀ (result : Except Failure α) u, Serves E g project b u →
      Safe E granted (Kept E g project b)
        (modify g (fun _ => Progress.unlock) >>= fun _ => .done result) (some g) u := by
    intro result u serves
    refine .bind (safe_modify_quiet serves (fun p => ⟨rfl, rfl⟩) (fun p stems => stems.unlock) ?_)
    exact fun _ serves' => ⟨rfl, serves'⟩
  refine .bind (safe_onceBuilt serves (unlock _) fun u r serves sameBinding => ?_)
  refine (safe u r serves sameBinding).mono fun bound a u kept => ?_
  obtain ⟨rfl, serves⟩ := kept
  exact unlock (.ok a) u serves

theorem safe_applyMetadata {r : Registration} {text : String} {metadata : Metadata}
    (h : Serves E g project b w) (sameBinding : r.binding = b) (given : E.given g text)
    (read : Metadata.ofText text = .ok metadata) :
    Safe E granted (Kept E g project b) (applyMetadata g metadata r) (some g) w := by
  subst sameBinding
  refine .bind (safe_modify_quiet h (fun p => ⟨rfl, rfl⟩) (fun p stems => stems.removeAll _) ?_)
  intro _ serves
  refine .bind (safe_loadConfigs _ serves List.mem_cons_self fun v _ serves => ?_)
  refine .bind (safe_modify_quiet serves (fun p => ⟨rfl, rfl⟩) (fun p stems => ?_) ?_)
  · refine stems.setProjectMod fun own isOwn => ?_
    obtain rfl := Option.some.inj isOwn
    exact ⟨rfl, text, metadata, given, read, rfl⟩
  · exact fun _ serves => ⟨rfl, serves⟩

theorem safe_dropMetadata {r : Registration} (h : Serves E g project b w) :
    Safe E granted (Kept E g project b) (dropMetadata g r) (some g) w := by
  refine .bind (safe_modify_quiet h (fun p => ⟨rfl, rfl⟩) (fun p stems => ?_) fun _ serves => ?_)
  · refine stems.setProjectMod fun own impossible => ?_
    cases impossible
  · refine .bind (safe_modify_quiet serves (fun p => ⟨rfl, rfl⟩)
      (fun p stems => stems.removeAll _) ?_)
    exact fun _ serves => ⟨rfl, serves⟩

theorem safe_retargetTypes {r : Registration} (types : List TypeName) (h : Serves E g project b w)
    (sameBinding : r.binding = b) :
    Safe E granted (Kept E g project b) (retargetTypes g types r) (some g) w := by
  subst sameBinding
  refine .bind (.bind (safe_modify_quiet h (fun p => ⟨rfl, rfl⟩) (fun p stems => ?_) ?_))
  · refine stems.retargetTypes types fun type target named => ?_
    obtain ⟨r', known, -, -⟩ := h.registration
    exact h.sound.seen (Option.isSome_iff_exists.2 ⟨r', known⟩) _ type target named
  · exact fun _ serves => ⟨rfl, serves⟩

end Work

/-! ### Requests -/

namespace Operation

open Work

/-- An index that is the answer is that of the registration in force, complete and kept, and the
work was for this registration. -/
def Delivers (operation : Operation) (bound : Option Generation) (answer : Answer)
    (v : Workspace) : Prop :=
  ∀ project x, operation = .index project → answer = .index x →
    ∃ g r, bound = some g ∧ v.current? project = some g ∧ v.registration? g = some r ∧
      r.progress.phase = .loaded ∧ r.progress.isKept = true ∧ r.progress.index = x

variable {α : Type} {E : Evidence} {granted : Generation → Prop} {w : Workspace}

/-- The answer of an index request. -/
theorem safe_index (project : String) :
    Safe E granted (index project).Delivers (index project).work none w := by
  refine .bind (safe_forProject (fun v => ?_) fun v g b _ serves => ?_)
  · intro _ x _ impossible
    cases impossible
  refine .bind (safe_built serves fun u evolves serves result built => ?_)
  cases result with
  | none => exact trivial
  | some r =>
      intro named x same found
      obtain rfl := Operation.index.inj same
      obtain rfl := Answer.index.inj found
      obtain ⟨current, known, loaded, kept⟩ := built r rfl
      obtain ⟨r', known', sameProject, -⟩ := serves.registration
      rw [known, Option.some.injEq] at known'
      subst known'
      refine ⟨g, r, rfl, ?_, known, loaded, kept, rfl⟩
      rw [Workspace.isCurrent, known, Option.any_some, beq_iff_eq, sameProject] at current
      exact current

/-- Only requests for the index answer with one. -/
theorem delivers_of_ne {operation : Operation} (other : ∀ project, operation ≠ .index project)
    (bound : Option Generation) (answer : Answer) (v : Workspace) :
    operation.Delivers bound answer v := by
  intro named _ same
  exact absurd same (other named)

theorem safe_mixins (project : String) (target : TypeName) :
    Safe E granted (mixins project target).Delivers (mixins project target).work none w := by
  have other : ∀ named, mixins project target ≠ .index named := fun _ impossible => by
    cases impossible
  refine .bind (.bind (safe_forProject (fun v => ?_) fun v g b _ serves => ?_))
  · exact delivers_of_ne other none _ v
  refine .bind (safe_built serves fun u _ _ result _ => ?_)
  cases result with
  | none => exact trivial
  | some r => exact delivers_of_ne other (some g) _ u

theorem safe_augmentations (project : String) (target : TypeName) :
    Safe E granted (augmentations project target).Delivers (augmentations project target).work
      none w := by
  have other : ∀ named, augmentations project target ≠ .index named := fun _ impossible => by
    cases impossible
  refine .bind (safe_forProject (fun v => ?_) fun v g b _ serves => ?_)
  · exact delivers_of_ne other none _ v
  refine .bind (safe_onceBuilt serves (fun u _ => ?_) fun u r _ _ => ?_)
  · exact delivers_of_ne other (some g) _ u
  · exact delivers_of_ne other (some g) _ u

/-- An event whose work is safe for the registration in force. -/
theorem safe_ofEvent {operation : Operation} {project : String}
    {f : Generation → Work (Except Failure α)} {answer : α → Answer}
    (other : ∀ project, operation ≠ .index project)
    (safe : ∀ v g b, granted g → Serves E g project b v →
      Safe E granted (Kept E g project b) (f g) (some g) v) :
    Safe E granted operation.Delivers
      (forProject project f >>= fun result => .done (.ofResult answer result)) none w := by
  refine .bind (safe_forProject (fun v => ?_) fun v g b grant serves => ?_)
  · exact delivers_of_ne other none _ v
  · exact (safe v g b grant serves).mono fun bound result u _ => delivers_of_ne other bound _ u

/-- All requests are safe, and an index that is the answer is in force and complete. -/
theorem safe (operation : Operation) (request : operation.isEdit = false)
    (grants : ∀ project text g, operation = .metadataChanged project text → granted g →
      E.given g text) :
    Safe E granted operation.Delivers operation.work none w := by
  cases operation with
  | register => cases request
  | removeProject => cases request
  | putFile => cases request
  | removeFile => cases request
  | declare => cases request
  | undeclare => cases request
  | index project => exact safe_index project
  | mixins project target => exact safe_mixins project target
  | augmentations project target => exact safe_augmentations project target
  | metadataChanged project text =>
      refine safe_ofEvent (fun _ impossible => by cases impossible) fun v g b grant serves => ?_
      cases read : Metadata.ofText text with
      | error failure => exact ⟨rfl, serves⟩
      | ok metadata =>
          exact safe_event serves fun u r serves sameBinding =>
            safe_applyMetadata serves sameBinding (grants project text g rfl grant) read
  | metadataRemoved project =>
      refine safe_ofEvent (fun _ impossible => by cases impossible) fun v g b _ serves => ?_
      exact safe_event serves fun u r serves _ => safe_dropMetadata serves
  | typesChanged project types =>
      refine safe_ofEvent (fun _ impossible => by cases impossible) fun v g b _ serves => ?_
      exact safe_event serves fun u r serves sameBinding =>
        safe_retargetTypes types serves sameBinding
  | projects | phase | environment | tryMixins =>
      exact delivers_of_ne (fun _ impossible => by cases impossible) none _ w

end Operation

end MixinIndex
