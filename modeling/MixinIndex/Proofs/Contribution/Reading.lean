import MixinIndex.Contribution.Loading
import MixinIndex.Proofs.Contribution.Refinement

/-!
# What config files contribute

A config file contributes the types that it lists, each applied to the targets that its declaration
names.  When declarations change, pointing the changed types at their new targets turns the old
contribution into the new one.

## Main definitions

* `ConfigFile.contribution`: what a config file contributes
* `Contributions.load`: put what was read of a config in place

## Main statements

* `ConfigFile.retargetTypes_contribution`: pointing the changed types elsewhere is enough
* `Index.Represents.tryLoad`: reading a config
-/

namespace MixinIndex

namespace Contribution

/-- Point several augmenting types at the targets that they name. -/
def retargetTypes (c : Contribution) (targetsOf : TypeName → List TypeName)
    (types : List TypeName) : Contribution :=
  types.foldl (fun c type => c.retarget type (targetsOf type)) c

variable {c : Contribution} {targetsOf : TypeName → List TypeName}

theorem types_retargetTypes (types : List TypeName) :
    (c.retargetTypes targetsOf types).types = c.types := by
  induction types generalizing c with
  | nil => rfl
  | cons type types ih => exact ih.trans (c.types_retarget type _)

theorem mem_applications_retargetTypes {types : List TypeName} {a : Application} :
    a ∈ (c.retargetTypes targetsOf types).applications ↔
      if a.augmenting ∈ c.types ∧ a.augmenting ∈ types then a.target ∈ targetsOf a.augmenting
      else a ∈ c.applications := by
  induction types generalizing c with
  | nil => simp [retargetTypes]
  | cons type types ih =>
      refine (ih (c := c.retarget type (targetsOf type))).trans ?_
      simp only [types_retarget, mem_applications_retarget, List.mem_cons]
      by_cases listed : a.augmenting ∈ c.types
      · by_cases later : a.augmenting ∈ types
        · simp [listed, later]
        · by_cases now : a.augmenting = type
          · subst now
            simp [listed, later]
          · simp [later, now]
      · have other : ¬ (type ∈ c.types ∧ a.augmenting = type) := by
          rintro ⟨here, same⟩
          exact listed (same ▸ here)
        simp [listed, other]

end Contribution

/-- What a config file contributes, given the targets that types name. -/
def ConfigFile.contribution (file : ConfigFile) (targetsOf : TypeName → List TypeName) :
    Contribution :=
  .ofLists file.augmentingTypes
    (file.augmentingTypes.flatMap fun type => Application.toTargets type (targetsOf type))

namespace ConfigFile

variable {file : ConfigFile} {targetsOf targetsOf' : TypeName → List TypeName}

theorem mem_types_contribution {type : TypeName} :
    type ∈ (file.contribution targetsOf).types ↔ type ∈ file.augmentingTypes :=
  mem_ofList_set

theorem mem_applications_contribution {a : Application} :
    a ∈ (file.contribution targetsOf).applications ↔
      a.augmenting ∈ file.augmentingTypes ∧ a.target ∈ targetsOf a.augmenting := by
  refine mem_ofList_set.trans ?_
  simp only [List.mem_flatMap, Application.mem_toTargets]
  constructor
  · rintro ⟨type, listed, rfl, target⟩
    exact ⟨listed, target⟩
  · rintro ⟨listed, target⟩
    exact ⟨a.augmenting, listed, rfl, target⟩

/-- If only some types change their targets, pointing these elsewhere is enough. -/
theorem retargetTypes_contribution {types : List TypeName}
    (others : ∀ type, type ∉ types → targetsOf type = targetsOf' type) :
    (file.contribution targetsOf).retargetTypes targetsOf' types =
      file.contribution targetsOf' := by
  refine Contribution.ext ?_ ?_
  · rw [Contribution.types_retargetTypes]
    rfl
  · ext a
    simp only [Contribution.mem_applications_retargetTypes, mem_types_contribution,
      mem_applications_contribution]
    by_cases changed : a.augmenting ∈ types
    · by_cases listed : a.augmenting ∈ file.augmentingTypes <;> simp [changed, listed]
    · simp [changed, others _ changed]

end ConfigFile

namespace Contributions

/-- Put in place what was read of a config, if it could be read. -/
def load (m : Contributions) (config : String) : Option Contribution → Contributions
  | some c => m.insert config c
  | none => m

variable (m : Contributions)

theorem getElem?_load (config k : String) (c : Option Contribution) :
    (m.load config c)[k]? = if k = config then c.or m[k]? else m[k]? := by
  cases c with
  | none => simp [load]
  | some c =>
      rw [load, Std.ExtTreeMap.getElem?_insert]
      simp only [Std.LawfulEqCmp.compare_eq_iff_eq, Option.some_or]
      by_cases same : k = config
      · simp [same]
      · simp [same, Ne.symm same]

/-- Of several configs that are put in place, each holds what was read of it. -/
theorem getElem?_foldl_load (read : String → Option Contribution) (configs : List String)
    (k : String) :
    (configs.foldl (fun m config => m.load config (read config)) m)[k]? =
      if k ∈ configs then (read k).or m[k]? else m[k]? := by
  induction configs generalizing m with
  | nil => simp
  | cons config configs ih =>
      refine (ih (m.load config (read config))).trans ?_
      simp only [getElem?_load, List.mem_cons]
      by_cases same : k = config
      · subst same
        cases read k <;> simp
      · simp [same]

theorem getElem?_retargetTypes (targetsOf : TypeName → List TypeName) (types : List TypeName)
    (config : String) :
    (m.retargetTypes targetsOf types)[config]? =
      m[config]?.map (·.retargetTypes targetsOf types) := by
  induction types generalizing m with
  | nil => cases kept : m[config]? <;> simp [retargetTypes, Contribution.retargetTypes, kept]
  | cons type types ih =>
      refine (ih (m.retarget type (targetsOf type))).trans ?_
      rw [getElem?_retarget, Option.map_map]
      rfl

theorem getElem?_removeAll (configs : List String) (k : String) :
    (configs.foldl remove m)[k]? = if k ∈ configs then none else m[k]? := by
  induction configs generalizing m with
  | nil => simp
  | cons config configs ih =>
      refine (ih (m.remove config)).trans ?_
      simp only [remove, Std.ExtTreeMap.getElem?_erase, List.mem_cons,
        Std.LawfulEqCmp.compare_eq_iff_eq]
      by_cases same : k = config
      · simp [same]
      · simp [same, Ne.symm same]

end Contributions

theorem Index.isLoaded_tryLoad (x : Index) (names : AnnotationNames) (c : Catalogue)
    (config : String) (resource : Except Failure String) :
    (x.tryLoad names c config resource).isLoaded = x.isLoaded := by
  cases resource with
  | error failure => rfl
  | ok text =>
      cases read : ConfigFile.ofText config text with
      | error failure => simp [tryLoad, load, read, bind, Except.bind]
      | ok file =>
          simp only [tryLoad, load, read, bind, Except.bind]
          exact x.isLoaded_replace config _ _

/-- Reading a config into an index does so in the map. -/
theorem Index.Represents.tryLoad {x : Index} {m : Contributions} (h : x.Represents m)
    (names : AnnotationNames) (c : Catalogue) (config : String)
    (resource : Except Failure String) :
    (x.tryLoad names c config resource).Represents (m.load config
      (((resource.toOption.bind fun text => (ConfigFile.ofText config text).toOption).map
        fun file => file.contribution (c.targetsOf names)))) := by
  cases resource with
  | error failure => exact h
  | ok text =>
      cases read : ConfigFile.ofText config text with
      | error failure =>
          simp only [Index.tryLoad, Index.load, read, Except.toOption, Option.bind_some,
            Option.map_none, bind, Except.bind]
          exact h
      | ok file =>
          simp only [Index.tryLoad, Index.load, read, Except.toOption, Option.bind_some,
            Option.map_some, bind, Except.bind]
          exact h.replace config file.augmentingTypes (c.entriesOf names file)

end MixinIndex
