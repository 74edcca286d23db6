import MixinIndex.Proofs.Contribution.Reading
import MixinIndex.Store.Run

/-!
# Where the progress of a registration comes from

What was built for a registration came to it in three ways: as resources that were read for it, as
metadata texts of events that were for it, and as the targets that types named in its
declarations.  Progress stems from given evidence if all of it came so, from the sources and
declarations of its own binding.

## Main definitions

* `Evidence`: what came to which registration
* `Evidence.Finds`, `Evidence.Announces`: where a mod comes from
* `Evidence.Contributes`: where the contribution of a config comes from
* `Progress.Stems`: all progress comes from the evidence

## Main statements

* `Progress.Stems.tryLoad`, `Progress.Stems.endBuild` and the like: what is done to progress keeps
  it stemming from the evidence
-/

namespace MixinIndex

/-- What came to registrations: the resources that were read for them by source and path, the
metadata texts given to them, and the targets that types named in declarations while they were
registered. -/
structure Evidence where
  read : Generation → String → String → Except Failure String → Prop
  given : Generation → String → Prop
  declared : Generation → String → TypeName → TypeName → Prop

namespace Evidence

variable (E : Evidence) (g : Generation)

/-- A mod was found in its source. -/
def Finds (metadataFile : String) (mod : LoadedMod) : Prop :=
  ∃ resource, E.read g mod.source metadataFile resource ∧
    LoadedMod.ofResource? mod.source resource = some mod

/-- The own mod of a binding was announced by an event. -/
def Announces (b : Binding) (mod : LoadedMod) : Prop :=
  ∃ text metadata, E.given g text ∧ Metadata.ofText text = .ok metadata ∧
    mod = ⟨b.source, metadata⟩

/-- An application stands in a config that was read from a source of the binding, and the
declarations of the binding named its target. -/
def Shows (b : Binding) (config : String) (a : Application) : Prop :=
  ∃ source ∈ b.sources, ∃ text file,
    E.read g source config (.ok text) ∧ ConfigFile.ofText config text = .ok file ∧
      a.augmenting ∈ file.augmentingTypes ∧ E.declared g b.declarations a.augmenting a.target

/-- What a config contributes was read from a source of the binding, and the declarations of the
binding named the targets. -/
def Contributes (b : Binding) (config : String) (c : Contribution) : Prop :=
  ∃ source ∈ b.sources, ∃ text file,
    E.read g source config (.ok text) ∧ ConfigFile.ofText config text = .ok file ∧
      (∀ type, type ∈ c.types ↔ type ∈ file.augmentingTypes) ∧
        ∀ a ∈ c.applications, a.augmenting ∈ file.augmentingTypes ∧
          E.declared g b.declarations a.augmenting a.target

end Evidence

/-- All progress of a registration comes from the evidence for it and from its own binding. -/
structure Progress.Stems (p : Progress) (E : Evidence) (metadataFile : String) (g : Generation)
    (b : Binding) : Prop where
  project : ∀ mod, p.environment.project = some mod → mod.source = b.source ∧
    (E.Finds g metadataFile mod ∨ E.Announces g b mod)
  classpath : ∀ mod ∈ p.environment.classpath,
    mod.source ∈ b.classpath ∧ E.Finds g metadataFile mod
  index : ∃ m, p.index.Represents m ∧
    ∀ (config : String) (c : Contribution), m[config]? = some c → E.Contributes g b config c

namespace Progress.Stems

variable {p : Progress} {E : Evidence} {metadataFile : String} {g : Generation} {b : Binding}

theorem initial : ({} : Progress).Stems E metadataFile g b where
  project := by
    intro mod found
    cases found
  classpath := by
    intro mod member
    cases member
  index := by
    refine ⟨∅, Index.represents_empty, fun config c kept => ?_⟩
    rw [Std.ExtTreeMap.getElem?_empty] at kept
    cases kept

theorem beginBuild (h : p.Stems E metadataFile g b) : p.beginBuild.Stems E metadataFile g b where
  project := h.project
  classpath := h.classpath
  index := by
    have fresh : ({} : Progress).Stems E metadataFile g b := initial
    exact fresh.index

theorem endBuild (h : p.Stems E metadataFile g b) {environment : Environment}
    (project : ∀ mod, environment.project = some mod →
      mod.source = b.source ∧ E.Finds g metadataFile mod)
    (classpath : ∀ mod ∈ environment.classpath,
      mod.source ∈ b.classpath ∧ E.Finds g metadataFile mod) :
    (p.endBuild environment).Stems E metadataFile g b where
  project := by
    intro mod found
    obtain ⟨source, finds⟩ := project mod found
    exact ⟨source, Or.inl finds⟩
  classpath := classpath
  index := by
    obtain ⟨m, represents, contributes⟩ := h.index
    exact ⟨m, represents.markLoaded, contributes⟩

theorem dropIndex (h : p.Stems E metadataFile g b) : p.dropIndex.Stems E metadataFile g b :=
  ⟨h.project, h.classpath, h.index⟩

theorem lock (h : p.Stems E metadataFile g b) : p.lock.Stems E metadataFile g b :=
  ⟨h.project, h.classpath, h.index⟩

theorem unlock (h : p.Stems E metadataFile g b) : p.unlock.Stems E metadataFile g b :=
  ⟨h.project, h.classpath, h.index⟩

theorem setProjectMod (h : p.Stems E metadataFile g b) {mod : Option LoadedMod}
    (announced : ∀ own, mod = some own → own.source = b.source ∧ E.Announces g b own) :
    (p.setProjectMod mod).Stems E metadataFile g b where
  project := by
    intro own found
    obtain ⟨source, announces⟩ := announced own found
    exact ⟨source, Or.inr announces⟩
  classpath := h.classpath
  index := h.index

/-! ### The index -/

/-- Reading a config of a source of the binding. -/
theorem tryLoad (h : p.Stems E metadataFile g b) {source config : String}
    {resource : Except Failure String} (own : source ∈ b.sources)
    (read : E.read g source config resource) {names : AnnotationNames} {c : Catalogue}
    (declared : ∀ type target, target ∈ c.targetsOf names type →
      E.declared g b.declarations type target) :
    (p.modifyIndex (·.tryLoad names c config resource)).Stems E metadataFile g b where
  project := h.project
  classpath := h.classpath
  index := by
    obtain ⟨m, represents, contributes⟩ := h.index
    refine ⟨_, represents.tryLoad names c config resource, fun k d kept => ?_⟩
    rw [Contributions.getElem?_load] at kept
    by_cases here : k = config
    · subst here
      -- a config that cannot be read or makes no sense leaves what was there
      cases resource with
      | error failure => exact contributes k d (by simpa [Except.toOption] using kept)
      | ok text =>
          cases parsed : ConfigFile.ofText k text with
          | error failure =>
              exact contributes k d (by simpa [Except.toOption, parsed] using kept)
          | ok file =>
              have fresh : d = file.contribution (c.targetsOf names) := by
                simpa [Except.toOption, parsed, eq_comm] using kept
              refine ⟨source, own, text, file, read, parsed, ?_, ?_⟩
              · intro type
                rw [fresh]
                exact ConfigFile.mem_types_contribution
              · intro a member
                rw [fresh, ConfigFile.mem_applications_contribution] at member
                exact ⟨member.1, declared a.augmenting a.target member.2⟩
    · rw [if_neg here] at kept
      exact contributes k d kept

theorem removeAll (h : p.Stems E metadataFile g b) (configs : List String) :
    (p.modifyIndex (·.removeAll configs)).Stems E metadataFile g b where
  project := h.project
  classpath := h.classpath
  index := by
    obtain ⟨m, represents, contributes⟩ := h.index
    refine ⟨_, represents.removeAll configs, fun k d kept => ?_⟩
    rw [Contributions.getElem?_removeAll] at kept
    by_cases gone : k ∈ configs
    · rw [if_pos gone] at kept
      cases kept
    · rw [if_neg gone] at kept
      exact contributes k d kept

/-- Pointing types at targets that the declarations name. -/
theorem retargetTypes (h : p.Stems E metadataFile g b) {targetsOf : TypeName → List TypeName}
    (types : List TypeName)
    (declared : ∀ type target, target ∈ targetsOf type → E.declared g b.declarations type target) :
    (p.modifyIndex fun x => (x.retargetTypes targetsOf types).2).Stems E metadataFile g b where
  project := h.project
  classpath := h.classpath
  index := by
    obtain ⟨m, represents, contributes⟩ := h.index
    refine ⟨_, represents.retargetTypes targetsOf types, fun k d kept => ?_⟩
    rw [Contributions.getElem?_retargetTypes] at kept
    obtain ⟨c, keptBefore, rfl⟩ := Option.map_eq_some_iff.1 kept
    obtain ⟨source, own, text, file, read, parsed, listed, applied⟩ := contributes k c keptBefore
    refine ⟨source, own, text, file, read, parsed, ?_, ?_⟩
    · intro type
      rw [Contribution.types_retargetTypes]
      exact listed type
    · intro a member
      rw [Contribution.mem_applications_retargetTypes] at member
      by_cases moved : a.augmenting ∈ c.types ∧ a.augmenting ∈ types
      · rw [if_pos moved] at member
        exact ⟨(listed a.augmenting).1 moved.1, declared a.augmenting a.target member⟩
      · rw [if_neg moved] at member
        exact applied a member

/-- An application in the index was read from a source of the binding, and its target was named by
the declarations of the binding. -/
theorem mem_mixinsFor (h : p.Stems E metadataFile g b) {target : TypeName} {a : Application}
    (shown : a ∈ p.index.mixinsFor target) :
    a.target = target ∧ ∃ config, E.Shows g b config a := by
  obtain ⟨m, represents, contributes⟩ := h.index
  rw [Index.mixinsFor, Std.ExtTreeSet.mem_toList, represents.bucket_eq,
    Contributions.mem_toTarget, Contributions.mem_applications] at shown
  obtain ⟨same, config, c, kept, member⟩ := shown
  obtain ⟨source, own, text, file, read, parsed, -, applied⟩ := contributes config c kept
  exact ⟨same, config, source, own, text, file, read, parsed, applied a member⟩

end Progress.Stems

end MixinIndex
