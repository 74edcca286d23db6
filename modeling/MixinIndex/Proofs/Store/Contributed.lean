import MixinIndex.Proofs.Contribution.Loading
import MixinIndex.Proofs.Store.Sequential

/-!
# What mods contribute

The index of a registration after a build represents what its mods contribute as their files read
now.  Where the configs of the project's own mod have names of their own, changing the configs of
this mod is a matter of removing some and reading others.

## Main definitions

* `Workspace.contribution?`: what a config contributes, as it reads now
* `Workspace.contributeMods`: what several mods contribute, later ones in place of earlier ones
* `Workspace.contributionsWith`: what a binding contributes, given the metadata of its own mod
* `Workspace.Alike`: the same readings, the metadata of the own mod apart

## Main statements

* `Index.Represents.loadMods`: reading the configs of mods
* `Workspace.contributionsWith_update`: from one metadata of the own mod to another
* `Workspace.Alike.retargetTypes_contributionsWith`: from some declarations to others
-/

namespace MixinIndex

/-- The mod that the metadata of a source describes. -/
def LoadedMod.ofMetadata (source : String) (metadata : Option Metadata) : Option LoadedMod :=
  metadata.map (⟨source, ·⟩)

namespace Metadata

variable {m : Metadata} {previous : Option Metadata} {k : String}

theorem mem_added :
    k ∈ (m.diffFrom previous).added ↔ k ∈ m.configs ∧ k ∉ configsOf previous := by
  rw [diffFrom, mem_filter_set, Bool.not_eq_true', ← Bool.not_eq_true,
    Std.ExtTreeSet.contains_iff_mem]

theorem mem_removed :
    k ∈ (m.diffFrom previous).removed ↔ k ∈ configsOf previous ∧ k ∉ m.configs := by
  rw [diffFrom, mem_filter_set, Bool.not_eq_true', ← Bool.not_eq_true,
    Std.ExtTreeSet.contains_iff_mem]

end Metadata

/-- The metadata in the text of a file, if the file is there and makes sense. -/
def Metadata.ofText? (text : Option String) : Option Metadata :=
  text.bind fun text => (Metadata.ofText text).toOption

namespace Workspace

variable (w v : Workspace)

/-- The text of a resource, if it can be read. -/
def text? (source path : String) : Option String := (w.read source path).toOption

/-- The targets that types name in their declarations. -/
def targetsOf (declarations : String) : TypeName → List TypeName :=
  (w.catalogue declarations).targetsOf w.config.annotations

/-- What a config contributes, as it reads now. -/
def contribution? (declarations source config : String) : Option Contribution :=
  ((w.text? source config).bind fun text => (ConfigFile.ofText config text).toOption).map
    fun file => file.contribution (w.targetsOf declarations)

/-- Put what several configs of a source contribute in place. -/
def contributeConfigs (declarations source : String) (configs : List String) (m : Contributions) :
    Contributions :=
  configs.foldl (fun m config => m.load config (w.contribution? declarations source config)) m

/-- Put what several mods contribute in place. -/
def contributeMods (declarations : String) (mods : List LoadedMod) (m : Contributions) :
    Contributions :=
  mods.foldl (fun m mod =>
    w.contributeConfigs declarations mod.source mod.metadata.configs.toList m) m

/-- The mods of the classpath, as they read now. -/
def classpathMods (b : Binding) : List LoadedMod := b.classpath.filterMap w.modAt?

/-- What a binding contributes, given the metadata of its own mod. -/
def contributionsWith (b : Binding) (metadata : Option Metadata) : Contributions :=
  w.contributeMods b.declarations
    ((LoadedMod.ofMetadata b.source metadata).toList ++ w.classpathMods b) ∅

/-! ### Reading -/

theorem modAt?_eq (source : String) : w.modAt? source =
    LoadedMod.ofMetadata source (Metadata.ofText? (w.text? source w.config.metadataFile)) := by
  rw [modAt?, text?]
  cases w.read source w.config.metadataFile with
  | error failure => rfl
  | ok text =>
      rw [LoadedMod.ofResource?]
      cases read : Metadata.ofText text <;>
        simp [LoadedMod.ofMetadata, Metadata.ofText?, Except.toOption, read]

end Workspace

/-- The configs of a source are read as a loader reads them. -/
theorem Workspace.loadConfigs_eq_loadAll (w : Workspace) (declarations source : String)
    (configs : List String) (x : Index) :
    w.loadConfigs declarations source configs x =
      ((Loader.loadAll w.config.annotations (w.catalogue declarations) (w.read source)
        configs).run x).2 := by
  induction configs generalizing x with
  | nil => rfl
  | cons config configs ih =>
      rw [Loader.loadAll_cons_snd, Loader.run_load_snd, ← ih]
      rfl

theorem Index.isLoaded_loadConfigs (w : Workspace) (declarations source : String)
    (configs : List String) (x : Index) :
    (w.loadConfigs declarations source configs x).isLoaded = x.isLoaded := by
  rw [w.loadConfigs_eq_loadAll, Loader.isLoaded_loadAll]

namespace Index.Represents

variable {x : Index} {m : Contributions}

theorem loadConfigs (h : x.Represents m) (w : Workspace) (declarations source : String)
    (configs : List String) :
    (w.loadConfigs declarations source configs x).Represents
      (w.contributeConfigs declarations source configs m) := by
  have same : w.contribution? declarations source =
      Loader.contribution? w.config.annotations (w.catalogue declarations) (w.read source) := by
    funext config
    exact (Loader.contribution?_eq config).symm
  rw [w.loadConfigs_eq_loadAll, Workspace.contributeConfigs, same]
  exact Loader.represents_loadAll h configs

theorem loadMods (h : x.Represents m) (w : Workspace) (declarations : String)
    (mods : List LoadedMod) :
    (w.loadMods declarations mods x).Represents (w.contributeMods declarations mods m) := by
  induction mods generalizing x m with
  | nil => exact h
  | cons mod mods ih => exact ih (h.loadConfigs w declarations mod.source _)

end Index.Represents

namespace Workspace

variable (w v : Workspace)

/-! ### One config among many -/

theorem getElem?_contributeConfigs (declarations source : String) (configs : List String)
    (m : Contributions) (k : String) :
    (w.contributeConfigs declarations source configs m)[k]? =
      if k ∈ configs then (w.contribution? declarations source k).or m[k]? else m[k]? :=
  m.getElem?_foldl_load (w.contribution? declarations source) configs k

/-- Mods put their contributions in place of what was there. -/
theorem getElem?_contributeMods (declarations : String) (mods : List LoadedMod)
    (m : Contributions) (k : String) :
    (w.contributeMods declarations mods m)[k]? =
      (w.contributeMods declarations mods ∅)[k]?.or m[k]? := by
  induction mods generalizing m with
  | nil => simp [contributeMods]
  | cons mod mods ih =>
      have first (m : Contributions) :
          w.contributeMods declarations (mod :: mods) m = w.contributeMods declarations mods
            (w.contributeConfigs declarations mod.source mod.metadata.configs.toList m) := rfl
      rw [first, first, ih, ih (w.contributeConfigs _ _ _ ∅), Option.or_assoc,
        getElem?_contributeConfigs, getElem?_contributeConfigs]
      by_cases declared : k ∈ mod.metadata.configs.toList
      · rw [if_pos declared, if_pos declared, Std.ExtTreeMap.getElem?_empty, Option.or_none]
      · rw [if_neg declared, if_neg declared, Std.ExtTreeMap.getElem?_empty, Option.none_or]

theorem getElem?_contributeMods_of_undeclared (declarations : String) {mods : List LoadedMod}
    {k : String} (undeclared : ∀ mod ∈ mods, k ∉ mod.metadata.configs) :
    (w.contributeMods declarations mods ∅)[k]? = none := by
  induction mods with
  | nil => simp [contributeMods]
  | cons mod mods ih =>
      have first : w.contributeMods declarations (mod :: mods) ∅ =
          w.contributeMods declarations mods
            (w.contributeConfigs declarations mod.source mod.metadata.configs.toList ∅) := rfl
      have here : k ∉ mod.metadata.configs.toList := fun declared =>
        undeclared mod List.mem_cons_self (Std.ExtTreeSet.mem_toList.1 declared)
      rw [first, getElem?_contributeMods, ih fun other member => undeclared other
        (List.mem_cons_of_mem _ member), getElem?_contributeConfigs, if_neg here]
      simp

/-- What a config contributes, in terms of the own mod and the classpath. -/
theorem getElem?_contributionsWith (b : Binding) (metadata : Option Metadata) (k : String) :
    (w.contributionsWith b metadata)[k]? =
      (w.contributeMods b.declarations (w.classpathMods b) ∅)[k]?.or
        (if k ∈ Metadata.configsOf metadata then w.contribution? b.declarations b.source k
        else none) := by
  have own : w.contributionsWith b metadata =
      w.contributeMods b.declarations (w.classpathMods b)
        (w.contributeConfigs b.declarations b.source (Metadata.configsOf metadata).toList ∅) := by
    cases metadata with
    | none => rfl
    | some metadata => rfl
  rw [own, getElem?_contributeMods, getElem?_contributeConfigs]
  simp

/-! ### The own mod changes -/

/-- Where no config of the own mod is one of the classpath, neither before nor after, it is enough
to remove the configs that go and to read those that come. -/
theorem contributionsWith_update (b : Binding) (old : Option Metadata) (new : Metadata)
    (apart : ∀ k, k ∈ Metadata.configsOf old ∨ k ∈ new.configs →
      ∀ mod ∈ w.classpathMods b, k ∉ mod.metadata.configs) :
    w.contributeConfigs b.declarations b.source (new.diffFrom old).added.toList
        ((new.diffFrom old).removed.toList.foldl Contributions.remove
          (w.contributionsWith b old)) =
      w.contributionsWith b (some new) := by
  refine Std.ExtTreeMap.ext_getElem? fun {k} => ?_
  rw [getElem?_contributeConfigs, Contributions.getElem?_removeAll, getElem?_contributionsWith,
    getElem?_contributionsWith]
  simp only [Std.ExtTreeSet.mem_toList, Metadata.mem_added, Metadata.mem_removed,
    Metadata.configsOf_some]
  by_cases before : k ∈ Metadata.configsOf old
  · have classpath := w.getElem?_contributeMods_of_undeclared b.declarations (apart k (.inl before))
    by_cases after : k ∈ new.configs
    · simp [before, after]
    · simp [before, after, classpath]
  · by_cases after : k ∈ new.configs
    · have classpath := w.getElem?_contributeMods_of_undeclared b.declarations
        (apart k (.inr after))
      simp [before, after, classpath]
    · simp [before, after]

/-- Where no config of the own mod is one of the classpath, it is enough to remove them all. -/
theorem contributionsWith_remove (b : Binding) (old : Option Metadata)
    (apart : ∀ k ∈ Metadata.configsOf old, ∀ mod ∈ w.classpathMods b, k ∉ mod.metadata.configs) :
    (Metadata.configsOf old).toList.foldl Contributions.remove (w.contributionsWith b old) =
      w.contributionsWith b none := by
  refine Std.ExtTreeMap.ext_getElem? fun {k} => ?_
  rw [Contributions.getElem?_removeAll, getElem?_contributionsWith, getElem?_contributionsWith]
  simp only [Std.ExtTreeSet.mem_toList, Metadata.configsOf_none, Std.ExtTreeSet.not_mem_empty,
    ↓reduceIte, Option.or_none]
  by_cases before : k ∈ Metadata.configsOf old
  · rw [if_pos before, w.getElem?_contributeMods_of_undeclared b.declarations (apart k before)]
  · rw [if_neg before, if_neg before, Option.or_none]

/-! ### The declarations change -/

/-- What holds of each config holds of all mods together. -/
theorem getElem?_contributeMods_map {declarations : String} {mods : List LoadedMod}
    {f : Contribution → Contribution}
    (each : ∀ mod ∈ mods, ∀ config ∈ mod.metadata.configs,
      v.contribution? declarations mod.source config =
        (w.contribution? declarations mod.source config).map f) {m n : Contributions}
    (start : ∀ k : String, n[k]? = m[k]?.map f) (k : String) :
    (v.contributeMods declarations mods n)[k]? =
      (w.contributeMods declarations mods m)[k]?.map f := by
  induction mods generalizing m n with
  | nil => exact start k
  | cons mod mods ih =>
      refine ih (fun other member => each other (List.mem_cons_of_mem _ member)) fun k => ?_
      rw [getElem?_contributeConfigs, getElem?_contributeConfigs, start k]
      by_cases declared : k ∈ mod.metadata.configs.toList
      · rw [if_pos declared, if_pos declared, each mod List.mem_cons_self k
          (Std.ExtTreeSet.mem_toList.1 declared)]
        cases w.contribution? declarations mod.source k <;> rfl
      · rw [if_neg declared, if_neg declared]

/-- What two workspaces have in common from the view of a binding whose own mod declares certain
configs: the metadata and the configs of the classpath, and those configs. -/
structure Alike (b : Binding) (own : String → Prop) : Prop where
  config : v.config = w.config
  metadata : ∀ source ∈ b.classpath,
    v.text? source w.config.metadataFile = w.text? source w.config.metadataFile
  configs : ∀ mod ∈ w.classpathMods b, ∀ name ∈ mod.metadata.configs,
    v.text? mod.source name = w.text? mod.source name
  own : ∀ name, own name → v.text? b.source name = w.text? b.source name

namespace Alike

variable {w v : Workspace} {b : Binding} {own : String → Prop}

theorem refl (w : Workspace) (b : Binding) (own : String → Prop) : w.Alike w b own :=
  ⟨rfl, fun _ _ => rfl, fun _ _ _ _ => rfl, fun _ _ => rfl⟩

theorem classpathMods (h : w.Alike v b own) : v.classpathMods b = w.classpathMods b := by
  refine List.filterMap_congr fun source member => ?_
  rw [modAt?_eq, modAt?_eq, h.config, h.metadata source member]

/-- Where declarations differ in some types only, pointing these at their new targets leads from
what is contributed here to what is contributed there. -/
theorem retargetTypes_contributionsWith (h : w.Alike v b own) (types : List TypeName)
    (others : ∀ type, type ∉ types →
      (v.catalogue b.declarations).find? type = (w.catalogue b.declarations).find? type)
    {metadata : Option Metadata} (declared : ∀ k ∈ Metadata.configsOf metadata, own k) :
    (w.contributionsWith b metadata).retargetTypes (v.targetsOf b.declarations) types =
      v.contributionsWith b metadata := by
  have targets (type : TypeName) (unchanged : type ∉ types) :
      w.targetsOf b.declarations type = v.targetsOf b.declarations type := by
    rw [targetsOf, targetsOf, Catalogue.targetsOf, Catalogue.targetsOf, others type unchanged,
      h.config]
  have one (source config : String) (same : v.text? source config = w.text? source config) :
      v.contribution? b.declarations source config =
        (w.contribution? b.declarations source config).map
          (·.retargetTypes (v.targetsOf b.declarations) types) := by
    rw [contribution?, contribution?, same, Option.map_map]
    refine congrArg (fun f => Option.map f _) (funext fun file => ?_)
    exact (ConfigFile.retargetTypes_contribution targets).symm
  refine Std.ExtTreeMap.ext_getElem? fun {k} => ?_
  rw [Contributions.getElem?_retargetTypes, contributionsWith, contributionsWith, h.classpathMods]
  refine (getElem?_contributeMods_map w v (fun mod member config named => ?_) (fun k => ?_) k).symm
  · rcases List.mem_append.1 member with ownMod | classpathMod
    · cases metadata with
      | none => cases ownMod
      | some metadata =>
          obtain rfl : mod = ⟨b.source, metadata⟩ := List.mem_singleton.1 ownMod
          exact one b.source config (h.own config (declared config named))
    · exact one mod.source config (h.configs mod classpathMod config named)
  · simp

theorem contributionsWith (h : w.Alike v b own)
    (same : ∀ type,
      (v.catalogue b.declarations).find? type = (w.catalogue b.declarations).find? type)
    {metadata : Option Metadata} (declared : ∀ k ∈ Metadata.configsOf metadata, own k) :
    v.contributionsWith b metadata = w.contributionsWith b metadata :=
  (h.retargetTypes_contributionsWith [] (fun type _ => same type) declared).symm

end Alike

end Workspace

end MixinIndex
