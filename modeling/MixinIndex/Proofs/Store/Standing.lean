import MixinIndex.Proofs.Store.Contributed

/-!
# Registrations at rest

Between requests a registration in force is at rest: nobody is building its index, and no event is
being applied.  An event finds it so, sees to it that its index is complete, does its own work on
it, and leaves it at rest again.

## Main definitions

* `Progress.Built`: a complete index that represents given contributions
* `Tenure`: a registration that stays in force
* `Tenure.Standing`: it is in force and at rest
* `Tenure.afterEvent`: the workspace after an event

## Main statements

* `Workspace.built_afterBuild`: a build represents what the binding contributes
* `Progress.Built.applyMetadata`, `Progress.Built.dropMetadata`: what metadata events do
* `Tenure.Standing.event`: an event is never stuck
* `Tenure.Standing.metadataChanged`, `Tenure.Standing.metadataRemoved`,
  `Tenure.Standing.typesChanged`: each event
-/

namespace MixinIndex

/-! ### Complete progress -/

/-- The index of a registration is complete, and represents what its mods contribute. -/
structure Progress.Built (p : Progress) (environment : Environment) (m : Contributions) :
    Prop where
  isKept : p.isKept = true
  phase : p.phase = .loaded
  isLoaded : p.index.isLoaded = true
  environment : p.environment = environment
  represents : p.index.Represents m

/-- The mods of a binding, given the metadata of its own mod. -/
def Workspace.environmentWith (w : Workspace) (b : Binding) (metadata : Option Metadata) :
    Environment := ⟨LoadedMod.ofMetadata b.source metadata, w.classpathMods b⟩

theorem Workspace.projectMetadata_environmentWith (w : Workspace) (b : Binding)
    (metadata : Option Metadata) : (w.environmentWith b metadata).projectMetadata = metadata := by
  cases metadata <;> rfl

namespace Workspace

variable (w : Workspace) (b : Binding)

/-- The metadata file of the own mod of a binding, as it reads now. -/
def ownFile : Option String := w.text? b.source w.config.metadataFile

theorem settled_lock (p : Progress) : w.settled b p.lock = (w.settled b p).lock := by
  by_cases kept : p.isKept = true
  · exact (if_pos kept).trans (congrArg Progress.lock (if_pos kept).symm)
  · have unkept : ¬ p.lock.isKept = true := kept
    rw [settled, settled, if_neg kept, if_neg unkept]
    rfl

theorem isKept_settled (p : Progress) : (w.settled b p).isKept = true := by
  by_cases kept : p.isKept = true
  · rw [settled, if_pos kept]
    exact kept
  · rw [settled, if_neg kept]
    rfl

theorem environmentOf_eq :
    w.environmentOf b = w.environmentWith b (Metadata.ofText? (w.ownFile b)) := by
  rw [environmentWith, ownFile, ← modAt?_eq]
  rfl

/-- A build is complete, and represents what the binding contributes. -/
theorem built_afterBuild (p : Progress) :
    (w.afterBuild b p).Built (w.environmentWith b (Metadata.ofText? (w.ownFile b)))
      (w.contributionsWith b (Metadata.ofText? (w.ownFile b))) where
  isKept := rfl
  phase := rfl
  isLoaded := rfl
  environment := w.environmentOf_eq b
  represents := by
    have loaded := Index.represents_empty.loadMods w b.declarations (w.environmentOf b).mods
    rw [w.environmentOf_eq] at loaded
    rw [afterBuild, w.environmentOf_eq]
    exact loaded.markLoaded

end Workspace

namespace Progress.Built

variable {p : Progress} {environment : Environment} {m : Contributions}

theorem settled (h : p.Built environment m) (w : Workspace) (b : Binding) : w.settled b p = p :=
  if_pos h.isKept

/-- What events do to the index, they do to what it represents. -/
theorem modifyIndex (h : p.Built environment m) {f : Index → Index} {n : Contributions}
    (marked : ∀ x : Index, (f x).isLoaded = x.isLoaded)
    (moved : ∀ {x : Index}, x.Represents m → (f x).Represents n) :
    (p.modifyIndex f).Built environment n :=
  ⟨h.isKept, h.phase, (marked p.index).trans h.isLoaded, h.environment, moved h.represents⟩

theorem self (h : p.Built environment m) : p.Built p.environment m :=
  ⟨h.isKept, h.phase, h.isLoaded, rfl, h.represents⟩

theorem lock (h : p.Built environment m) : p.lock.Built environment m :=
  ⟨h.isKept, h.phase, h.isLoaded, h.environment, h.represents⟩

theorem unlock (h : p.Built environment m) : p.unlock.Built environment m :=
  ⟨h.isKept, h.phase, h.isLoaded, h.environment, h.represents⟩

theorem setProjectMod (h : p.Built environment m) (mod : Option LoadedMod) :
    (p.setProjectMod mod).Built { environment with project := mod } m := by
  refine ⟨h.isKept, h.phase, h.isLoaded, ?_, h.represents⟩
  rw [Progress.setProjectMod, h.environment]

end Progress.Built

/-! ### The work of events -/

/-- Progress after new metadata of the own mod has been brought in. -/
def Workspace.applyMetadata (w : Workspace) (b : Binding) (metadata : Metadata)
    (diff : Metadata.Diff) : Progress → Progress :=
  Progress.setProjectMod (some ⟨b.source, metadata⟩) ∘
    Progress.modifyIndex (w.loadConfigs b.declarations b.source diff.added.toList) ∘
    Progress.modifyIndex (·.removeAll diff.removed.toList)

/-- Progress after the own mod has been dropped with its configs. -/
def Progress.dropMetadata (configs : Std.ExtTreeSet String) : Progress → Progress :=
  Progress.modifyIndex (·.removeAll configs.toList) ∘ Progress.setProjectMod none

/-- Progress after some types have been pointed at the targets that they name. -/
def Workspace.retargetTypes (w : Workspace) (b : Binding) (types : List TypeName) :
    Progress → Progress :=
  Progress.modifyIndex fun x => (x.retargetTypes (w.targetsOf b.declarations) types).2

namespace Work

variable (w : Workspace) (g : Generation)

theorem yields_applyMetadata (metadata : Metadata) (r : Registration) :
    (applyMetadata g metadata r).Yields w
      (metadata.diffFrom r.progress.environment.projectMetadata)
      (w.modify g (w.applyMetadata r.binding metadata
        (metadata.diffFrom r.progress.environment.projectMetadata))) := by
  set diff := metadata.diffFrom r.progress.environment.projectMetadata
  refine .bind (.modify w g _) (.bind (yields_loadConfigs _ g _ _ _) ?_)
  have last := Yields.modify
    ((w.modify g (Progress.modifyIndex (·.removeAll diff.removed.toList))).modify g
      (Progress.modifyIndex (w.loadConfigs r.binding.declarations r.binding.source
        diff.added.toList)))
    g fun _ => Progress.setProjectMod (some ⟨r.binding.source, metadata⟩)
  refine .bind last ?_
  rw [Workspace.modify_modify, Workspace.modify_modify]
  exact .pure diff _

theorem yields_metadataChanged {w v : Workspace} {g : Generation} {project text : String}
    {metadata : Metadata} {a : Except Failure Metadata.Diff} (current : w.current? project = some g)
    (read : Metadata.ofText text = .ok metadata)
    (event : (event g project (applyMetadata g metadata)).Yields w a v) :
    (metadataChanged project text).Yields w a v := by
  refine yields_forProject current ?_
  rw [read]
  exact event

theorem yields_dropMetadata (r : Registration) :
    (dropMetadata g r).Yields w r.progress.environment.projectConfigs
      (w.modify g (Progress.dropMetadata r.progress.environment.projectConfigs)) := by
  refine .bind (.modify w g _) (.bind (.modify _ g _) ?_)
  rw [Workspace.modify_modify]
  exact .pure _ _

theorem yields_retargetTypes (types : List TypeName) (r : Registration) :
    (retargetTypes g types r).Yields w
      (r.progress.index.retargetTypes (w.targetsOf r.binding.declarations) types).1
      (w.modify g (w.retargetTypes r.binding types)) :=
  .bind (.workspace w) (.bind (.modify w g _) (.pure _ _))

end Work

namespace Progress.Built

variable {p : Progress} {environment : Environment} {m : Contributions}

/-- New metadata of the own mod: configs are removed and read. -/
theorem applyMetadata (h : p.Built environment m) (w : Workspace) (b : Binding) (new : Metadata)
    (diff : Metadata.Diff) :
    (w.applyMetadata b new diff p).Built { environment with project := some ⟨b.source, new⟩ }
      (w.contributeConfigs b.declarations b.source diff.added.toList
        (diff.removed.toList.foldl Contributions.remove m)) := by
  have removed := h.modifyIndex (fun x => x.isLoaded_removeAll _)
    (fun represents => represents.removeAll diff.removed.toList)
  have added := removed.modifyIndex (fun x => x.isLoaded_loadConfigs w b.declarations b.source _)
    (fun represents => represents.loadConfigs w b.declarations b.source diff.added.toList)
  exact added.setProjectMod (some ⟨b.source, new⟩)

/-- The own mod goes, and its configs are removed. -/
theorem dropMetadata (h : p.Built environment m) (configs : Std.ExtTreeSet String) :
    (p.dropMetadata configs).Built { environment with project := none }
      (configs.toList.foldl Contributions.remove m) :=
  (h.setProjectMod none).modifyIndex (fun x => x.isLoaded_removeAll _)
    (fun represents => represents.removeAll configs.toList)

end Progress.Built

/-! ### A registration that stays in force -/

/-- A registration that stays in force, and the names of all configs that its own mod ever
declares. -/
structure Tenure where
  project : String
  generation : Generation
  binding : Binding
  own : String → Prop

namespace Tenure

variable (t : Tenure)

/-- The registration is in force and at rest: nobody is building, and no event is being applied. -/
structure Standing (w : Workspace) (p : Progress) : Prop where
  current : w.current? t.project = some t.generation
  registration : w.registration? t.generation =
    some { project := t.project, binding := t.binding, progress := p }
  isUnlocked : p.isLocked = false
  isIdle : p.isKept = true ∨ p.phase ≠ .loading

/-- The registration is in force and nothing has been built for it. -/
structure Begins (w : Workspace) : Prop where
  current : w.current? t.project = some t.generation
  registration : w.registration? t.generation = some { project := t.project, binding := t.binding }

/-- The tenure that begins when a project is registered. -/
def ofRegister (w : Workspace) (project : String) (b : Binding) (own : String → Prop) :
    Tenure where
  project := project
  generation := (w.registry.dropIndex project).registrations.length
  binding := b
  own := own

theorem begins_register (w : Workspace) (project : String) (b : Binding)
    (own : String → Prop) :
    (ofRegister w project b own).Begins (w.register project b) where
  current := Std.ExtTreeMap.getElem?_insert_self
  registration := List.getElem?_concat_length

/-- Progress after an event, whose own work is done on a complete index. -/
def progressAfter (w : Workspace) (f : Progress → Progress) (p : Progress) : Progress :=
  (f (w.settled t.binding p).lock).unlock

/-- The workspace after an event. -/
def afterEvent (w : Workspace) (f : Progress → Progress) : Workspace :=
  w.modify t.generation (Progress.unlock ∘ f ∘ w.settled t.binding ∘ Progress.lock)

/-- What changes from the metadata that is known when an event comes. -/
def diff (w : Workspace) (p : Progress) (new : Metadata) : Metadata.Diff :=
  new.diffFrom (w.settled t.binding p).environment.projectMetadata

/-- A registration in force is at rest if nobody is building and no event is being applied. -/
theorem standing_of_isIdle {w : Workspace} {project : String} {g : Generation} {r : Registration}
    (inForce : w.current? project = some g) (known : w.registration? g = some r)
    (unlocked : r.progress.isLocked = false)
    (idle : r.progress.isKept = true ∨ r.progress.phase ≠ .loading) :
    (⟨project, g, r.binding, fun _ => True⟩ : Tenure).Standing w r.progress where
  current := inForce
  registration := by
    obtain ⟨s, knownS, named⟩ := w.registry.registered inForce
    obtain rfl := Option.some.inj (known.symm.trans knownS)
    rw [known, ← named]
  isUnlocked := unlocked
  isIdle := idle

theorem Begins.standing {t : Tenure} {w : Workspace} (h : t.Begins w) : t.Standing w {} where
  current := h.current
  registration := h.registration
  isUnlocked := rfl
  isIdle := Or.inr (by decide)

namespace Standing

variable {t} {w : Workspace} {p : Progress}

theorem isCurrent (h : t.Standing w p) : w.isCurrent t.generation = true := by
  rw [Workspace.isCurrent, h.registration, Option.any_some, h.current]
  exact BEq.rfl

theorem currentRegistration? (h : t.Standing w p) : w.currentRegistration? t.project =
    some { project := t.project, binding := t.binding, progress := p } := by
  rw [Workspace.currentRegistration?, h.current, Option.bind_some, h.registration]

theorem phase (h : t.Standing w p) : w.phase t.project = p.phase := by
  rw [Workspace.phase, h.currentRegistration?]

theorem environment (h : t.Standing w p) : w.environment t.project = some p.environment := by
  rw [Workspace.environment, h.currentRegistration?, Option.map_some]

theorem index (h : t.Standing w p) :
    w.perform Workspace.readResource (.index t.project) =
      some (.index (w.settled t.binding p).index,
        w.modify t.generation (w.settled t.binding)) :=
  Workspace.perform_of_yields
    (.bind (Work.yields_index h.current h.registration h.isCurrent h.isIdle) (.pure _ _))

theorem mixins (h : t.Standing w p) (target : TypeName) :
    w.perform Workspace.readResource (.mixins t.project target) =
      some (.mixins ((w.settled t.binding p).index.mixinsFor target),
        w.modify t.generation (w.settled t.binding)) := by
  have index := Work.yields_index h.current h.registration h.isCurrent h.isIdle
  exact Workspace.perform_of_yields (.bind (.bind index (.pure _ _)) (.pure _ _))

theorem augmentations (h : t.Standing w p) (target : TypeName) :
    w.perform Workspace.readResource (.augmentations t.project target) =
      some (.ofResult .augmentations (augmentationsOf w.config.annotations
          (w.catalogue t.binding.declarations) (w.settled t.binding p).index target),
        w.modify t.generation (w.settled t.binding)) := by
  have work := Work.yields_augmentations h.current h.registration h.isCurrent h.isIdle target
  exact Workspace.perform_of_yields (.bind work (.pure _ _))

/-- Asking for the index leaves it complete. -/
theorem asked (h : t.Standing w p) :
    t.Standing (w.modify t.generation (w.settled t.binding)) (w.settled t.binding p) where
  current := h.current
  registration := by
    rw [Workspace.registration?_modify_self, h.registration]
    rfl
  isUnlocked := by
    rw [Workspace.settled]
    split
    · exact h.isUnlocked
    · exact h.isUnlocked
  isIdle := Or.inl (w.isKept_settled t.binding p)

/-- An event is applied to a complete index.  It leads to where its own work leads from there. -/
theorem event (h : t.Standing w p) {α : Type} {work : Registration → Work α} {a : α}
    {f : Progress → Progress}
    (yields : ∀ u : Workspace, u = w.modify t.generation (w.settled t.binding ∘ Progress.lock) →
      (work { project := t.project, binding := t.binding,
              progress := (w.settled t.binding p).lock }).Yields u a (u.modify t.generation f)) :
    (Work.event t.generation t.project work).Yields w (.ok a) (t.afterEvent w f) := by
  have registration : Registration.modify (w.settled t.binding ∘ Progress.lock)
      { project := t.project, binding := t.binding, progress := p } =
        { project := t.project, binding := t.binding,
          progress := (w.settled t.binding p).lock } :=
    congrArg (Registration.mk t.project t.binding) (w.settled_lock t.binding p)
  have own := yields _ rfl
  rw [Workspace.modify_modify, ← registration] at own
  have applied :=
    Work.yields_event t.project work h.registration h.isCurrent h.isIdle h.isUnlocked own
  exact applied

/-- An event whose own work keeps the index leaves the registration at rest. -/
theorem afterEvent (h : t.Standing w p) {f : Progress → Progress}
    (kept : (f (w.settled t.binding p).lock).isKept = true) :
    t.Standing (t.afterEvent w f) (t.progressAfter w f p) where
  current := h.current
  registration := by
    rw [Tenure.afterEvent, Workspace.registration?_modify_self, h.registration, progressAfter,
      ← w.settled_lock]
    rfl
  isUnlocked := rfl
  isIdle := Or.inl kept

/-! ### Each event -/

theorem metadataChanged (h : t.Standing w p) {text : String} {new : Metadata}
    (read : Metadata.ofText text = .ok new) :
    w.perform Workspace.readResource (.metadataChanged t.project text) =
      some (.diff (t.diff w p new),
        t.afterEvent w (w.applyMetadata t.binding new (t.diff w p new))) := by
  have event := h.event (f := w.applyMetadata t.binding new (t.diff w p new)) fun u same => by
    subst same
    exact Work.yields_applyMetadata _ t.generation new _
  exact Workspace.perform_of_yields
    (.bind (Work.yields_metadataChanged h.current read event) (.pure _ _))

theorem metadataIgnored (h : t.Standing w p) {text : String} {failure : Failure}
    (read : Metadata.ofText text = .error failure) :
    w.perform Workspace.readResource (.metadataChanged t.project text) =
      some (.failed failure, w) := by
  have work : (Work.metadataChanged t.project text).Yields w (.error failure) w := by
    refine Work.yields_forProject h.current ?_
    rw [read]
    exact .pure _ w
  exact Workspace.perform_of_yields (.bind work (.pure _ w))

theorem metadataRemoved (h : t.Standing w p) :
    w.perform Workspace.readResource (.metadataRemoved t.project) =
      some (.configs (w.settled t.binding p).environment.projectConfigs, t.afterEvent w
        (Progress.dropMetadata (w.settled t.binding p).environment.projectConfigs)) := by
  have event := h.event
    (f := Progress.dropMetadata (w.settled t.binding p).environment.projectConfigs)
    fun u same => by
      subst same
      exact Work.yields_dropMetadata _ t.generation _
  exact Workspace.perform_of_yields (.bind (Work.yields_forProject h.current event) (.pure _ _))

/-- The answer to an event of changed types is what pointing them elsewhere touches. -/
theorem touched (h : t.Standing w p) (types : List TypeName) :
    w.perform Workspace.readResource (.typesChanged t.project types) =
      some (.targets ((w.settled t.binding p).index.retargetTypes
          (w.targetsOf t.binding.declarations) types).1,
        t.afterEvent w (w.retargetTypes t.binding types)) := by
  have event := h.event (f := w.retargetTypes t.binding types) fun u same => by
    subst same
    exact Work.yields_retargetTypes _ t.generation types _
  exact Workspace.perform_of_yields (.bind (Work.yields_forProject h.current event) (.pure _ _))

theorem typesChanged (h : t.Standing w p) (types : List TypeName) :
    ∃ answer, w.perform Workspace.readResource (.typesChanged t.project types) =
      some (answer, t.afterEvent w (w.retargetTypes t.binding types)) :=
  ⟨_, h.touched types⟩

end Standing

end Tenure

end MixinIndex
