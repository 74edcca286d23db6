import Mathlib.Data.List.Sort
import MixinIndex.Contribution.Index

/-!
# Contributions as a plain map

What an index means: a map from config names to what each config contributes.  Every operation on
an index is one simple operation on this map, and every question is answered from the whole of it,
without counts and without a second view.

## Main definitions

* `Contribution`: the types that a config lists, and its applications
* `Contributions`: the contributions by config
* `Contributions.replace`, `Contributions.remove`, `Contributions.retarget`: the operations
* `View`: the answers to all questions
* `Contributions.view`: the answers that a map of contributions gives
* `Contributions.countOf`: how many configs contribute in a certain way
-/

namespace MixinIndex

open Std (TransOrd LawfulEqOrd)

/-! ### Sets and their lists -/

section Sets

variable {K : Type} [Ord K] [TransOrd K] [LawfulEqOrd K]

theorem mem_filter_set {s : Std.ExtTreeSet K} {p : K → Bool} {k : K} :
    k ∈ s.filter p ↔ k ∈ s ∧ p k = true := by
  rw [← Std.ExtTreeSet.mem_toList, Std.ExtTreeSet.toList_filter, List.mem_filter,
    Std.ExtTreeSet.mem_toList]

theorem mem_ofList_set [DecidableEq K] {l : List K} {k : K} :
    k ∈ Std.ExtTreeSet.ofList l ↔ k ∈ l := by
  rw [Std.ExtTreeSet.mem_ofList, List.contains_iff_mem]

omit [LawfulEqOrd K] in
theorem nodup_toList_set (s : Std.ExtTreeSet K) : s.toList.Nodup := by
  refine s.distinct_toList.imp ?_
  rintro a _ different rfl
  exact different Std.ReflCmp.compare_self

/-- The list of a set counts its members once. -/
theorem count_toList_set [DecidableEq K] (s : Std.ExtTreeSet K) (k : K) :
    s.toList.count k = if k ∈ s then 1 else 0 := by
  rw [(nodup_toList_set s).count]
  simp only [Std.ExtTreeSet.mem_toList]

theorem mem_foldl_insert {l : List K} {s : Std.ExtTreeSet K} {k : K} :
    k ∈ l.foldl (·.insert ·) s ↔ k ∈ s ∨ k ∈ l := by
  induction l generalizing s with
  | nil => simp
  | cons a l ih =>
      rw [List.foldl_cons, ih, Std.ExtTreeSet.mem_insert, List.mem_cons,
        Std.LawfulEqCmp.compare_eq_iff_eq]
      grind

theorem mem_foldl_erase {l : List K} {s : Std.ExtTreeSet K} {k : K} :
    k ∈ l.foldl (·.erase ·) s ↔ k ∈ s ∧ k ∉ l := by
  induction l generalizing s with
  | nil => simp
  | cons a l ih =>
      rw [List.foldl_cons, ih, Std.ExtTreeSet.mem_erase, List.mem_cons, ne_eq,
        Std.LawfulEqCmp.compare_eq_iff_eq]
      grind

omit [LawfulEqOrd K] in
/-- Lists in order are equal if they have the same members. -/
theorem eq_of_ordered {l l' : List K} (h : l.Pairwise fun a b => compare a b = .lt)
    (h' : l'.Pairwise fun a b => compare a b = .lt) (same : ∀ k, k ∈ l ↔ k ∈ l') : l = l' := by
  have irreflexive : Std.Irrefl fun a b : K => compare a b = .lt :=
    ⟨fun a less => by simp [Std.ReflCmp.compare_self] at less⟩
  have antisymmetric : Std.Antisymm fun a b : K => compare a b = .lt :=
    ⟨fun a b less greater => absurd (Std.OrientedCmp.gt_of_lt less) (by simp [greater])⟩
  exact h.eq_of_mem_iff h' fun {k} => same k

/-- The keys of a map in order are the members in order of the set of its keys. -/
theorem keys_eq_toList {V : Type} (m : Std.ExtTreeMap K V) (s : Std.ExtTreeSet K)
    (same : ∀ k, k ∈ m ↔ k ∈ s) : m.keys = s.toList := by
  refine eq_of_ordered m.ordered_keys s.ordered_toList fun k => ?_
  rw [Std.ExtTreeMap.mem_keys, Std.ExtTreeSet.mem_toList, same]

end Sets

/-! ### One config -/

/-- What a config contributes: the types that it lists, and applications. -/
@[ext]
structure Contribution where
  types : Std.ExtTreeSet TypeName
  applications : Std.ExtTreeSet Application

namespace Contribution

/-- A contribution from lists, in which order and repetition mean nothing. -/
def ofLists (types : List TypeName) (applications : List Application) : Contribution :=
  ⟨.ofList types, .ofList applications⟩

/-- Point an augmenting type at other targets, if it is listed. -/
def retarget (c : Contribution) (augmenting : TypeName) (targets : List TypeName) :
    Contribution :=
  if augmenting ∈ c.types then
    { c with
      applications := (c.applications.filter (·.augmenting != augmenting)) ∪
        .ofList (Application.toTargets augmenting targets) }
  else c

/-- The targets that a listed augmenting type has or is given. -/
def touched (c : Contribution) (augmenting : TypeName) (targets : List TypeName) :
    List TypeName :=
  if augmenting ∈ c.types then
    (c.applications.toList.filter (·.augmenting == augmenting)).map (·.target) ++ targets
  else []

@[simp] theorem types_retarget (c : Contribution) (augmenting : TypeName)
    (targets : List TypeName) : (c.retarget augmenting targets).types = c.types := by
  unfold retarget
  split <;> rfl

theorem mem_applications_retarget {c : Contribution} {augmenting : TypeName}
    {targets : List TypeName} {a : Application} :
    a ∈ (c.retarget augmenting targets).applications ↔
      if augmenting ∈ c.types ∧ a.augmenting = augmenting then a.target ∈ targets
      else a ∈ c.applications := by
  unfold retarget
  by_cases listed : augmenting ∈ c.types
  · simp only [listed, ↓reduceIte, Std.ExtTreeSet.mem_union_iff, mem_filter_set, bne_iff_ne,
      mem_ofList_set, Application.mem_toTargets, true_and]
    by_cases same : a.augmenting = augmenting <;> simp [same]
  · simp [listed]

theorem mem_touched {c : Contribution} {augmenting t : TypeName} {targets : List TypeName} :
    t ∈ c.touched augmenting targets ↔
      augmenting ∈ c.types ∧ (⟨t, augmenting⟩ ∈ c.applications ∨ t ∈ targets) := by
  unfold touched
  by_cases listed : augmenting ∈ c.types
  · rw [if_pos listed, List.mem_append, List.mem_map, and_iff_right listed]
    refine or_congr_left ⟨?_, fun held => ⟨⟨t, augmenting⟩, ?_, rfl⟩⟩
    · rintro ⟨⟨_, _⟩, member, rfl⟩
      rw [List.mem_filter, beq_iff_eq, Std.ExtTreeSet.mem_toList] at member
      obtain ⟨held, rfl⟩ := member
      exact held
    · rw [List.mem_filter, Std.ExtTreeSet.mem_toList]
      exact ⟨held, BEq.rfl⟩
  · rw [if_neg listed]
    exact iff_of_false List.not_mem_nil fun both => listed both.1

/-- What is in a part of a contribution, where there may be none. -/
theorem exists_of_mem_getD {V : Type} [Ord V] [TransOrd V] {kept : Option Contribution}
    {part : Contribution → Std.ExtTreeSet V} {v : V} (h : v ∈ (kept.map part).getD ∅) :
    ∃ c, kept = some c ∧ v ∈ part c := by
  cases kept with
  | none => exact absurd h Std.ExtTreeSet.not_mem_empty
  | some c => exact ⟨c, rfl, h⟩

end Contribution

/-! ### All configs -/

/-- Contributions by config. -/
abbrev Contributions := Std.ExtTreeMap String Contribution

namespace Contributions

variable (m : Contributions)

/-- Set what a config contributes. -/
def replace (config : String) (types : List TypeName) (applications : List Application) :
    Contributions :=
  m.insert config (.ofLists types applications)

/-- Drop what a config contributes. -/
def remove (config : String) : Contributions := m.erase config

/-- Point an augmenting type at other targets, in all configs that list it. -/
def retarget (augmenting : TypeName) (targets : List TypeName) : Contributions :=
  m.map fun _ c => c.retarget augmenting targets

/-- Point several augmenting types at the targets that they name. -/
def retargetTypes (targetsOf : TypeName → List TypeName) (types : List TypeName) :
    Contributions :=
  types.foldl (fun m type => m.retarget type (targetsOf type)) m

/-- The targets that an augmenting type has or is given in the configs that list it. -/
def touched (augmenting : TypeName) (targets : List TypeName) : Std.ExtTreeSet TypeName :=
  .ofList (m.toList.flatMap fun entry => entry.2.touched augmenting targets)

/-- The applications that a config contributes. -/
def ofConfig (config : String) : Std.ExtTreeSet Application :=
  (m[config]?.map (·.applications)).getD ∅

/-- All applications. -/
def applications : Std.ExtTreeSet Application :=
  .ofList (m.toList.flatMap fun entry => entry.2.applications.toList)

/-- All listed types. -/
def types : Std.ExtTreeSet TypeName :=
  .ofList (m.toList.flatMap fun entry => entry.2.types.toList)

/-- All targets. -/
def targets : Std.ExtTreeSet TypeName := .ofList (m.applications.toList.map (·.target))

/-- The applications to a target. -/
def toTarget (target : TypeName) : Std.ExtTreeSet Application :=
  m.applications.filter (·.target == target)

theorem mem_applications {m : Contributions} {a : Application} :
    a ∈ m.applications ↔
      ∃ (config : String) (c : Contribution), m[config]? = some c ∧ a ∈ c.applications := by
  simp only [applications, mem_ofList_set, List.mem_flatMap, Std.ExtTreeSet.mem_toList,
    Prod.exists, Std.ExtTreeMap.mem_toList_iff_getElem?_eq_some]

theorem mem_types {m : Contributions} {type : TypeName} :
    type ∈ m.types ↔
      ∃ (config : String) (c : Contribution), m[config]? = some c ∧ type ∈ c.types := by
  simp only [types, mem_ofList_set, List.mem_flatMap, Std.ExtTreeSet.mem_toList,
    Prod.exists, Std.ExtTreeMap.mem_toList_iff_getElem?_eq_some]

theorem mem_targets {m : Contributions} {target : TypeName} :
    target ∈ m.targets ↔ ∃ a ∈ m.applications, a.target = target := by
  simp only [targets, mem_ofList_set, List.mem_map, Std.ExtTreeSet.mem_toList]

theorem mem_toTarget {m : Contributions} {target : TypeName} {a : Application} :
    a ∈ m.toTarget target ↔ a.target = target ∧ a ∈ m.applications := by
  simp only [toTarget, mem_filter_set, beq_iff_eq, and_comm]

theorem mem_touched {m : Contributions} {augmenting t : TypeName} {targets : List TypeName} :
    t ∈ m.touched augmenting targets ↔
      ∃ (config : String) (c : Contribution),
        m[config]? = some c ∧ t ∈ c.touched augmenting targets := by
  simp only [touched, mem_ofList_set, List.mem_flatMap, Prod.exists,
    Std.ExtTreeMap.mem_toList_iff_getElem?_eq_some]

theorem getElem?_retarget (augmenting : TypeName) (targets : List TypeName) (config : String) :
    (m.retarget augmenting targets)[config]? =
      m[config]?.map (·.retarget augmenting targets) :=
  Std.ExtTreeMap.getElem?_map

/-- Pointing a type elsewhere that no config lists changes nothing. -/
theorem retarget_of_not_mem {m : Contributions} {augmenting : TypeName}
    (unlisted : augmenting ∉ m.types) (targets : List TypeName) :
    m.retarget augmenting targets = m := by
  refine Std.ExtTreeMap.ext_getElem? fun {config} => ?_
  rw [getElem?_retarget]
  cases kept : m[config]? with
  | none => rfl
  | some c =>
      have other : augmenting ∉ c.types := fun listed =>
        unlisted (mem_types.2 ⟨config, c, kept, listed⟩)
      simp [Contribution.retarget, other]

/-! ### Counting configs -/

/-- How many configs contribute in a certain way. -/
def countOf (p : Contribution → Bool) : Nat := (m.filter fun _ c => p c).size

/-- How many configs contribute an application. -/
def holders (a : Application) : Nat := m.countOf (·.applications.contains a)

/-- How many configs list a type. -/
def listings (type : TypeName) : Nat := m.countOf (·.types.contains type)

theorem countOf_empty (p : Contribution → Bool) : countOf ∅ p = 0 := by
  refine Std.ExtTreeMap.eq_empty_iff_size_eq_zero.1 ?_
  refine Std.ExtTreeMap.filter_eq_empty_iff.2 fun config kept => ?_
  exact absurd kept Std.ExtTreeMap.not_mem_empty

/-- A count is made up of one config and all the others. -/
theorem countOf_eq_remove (p : Contribution → Bool) (config : String) :
    m.countOf p = (m.remove config).countOf p + if m[config]?.any p then 1 else 0 := by
  have others : (m.erase config).filter (fun _ c => p c) =
      (m.filter fun _ c => p c).erase config := by
    refine Std.ExtTreeMap.ext_getElem? fun {k} => ?_
    by_cases same : config = k
    · simp [same]
    · simp [same, Std.ExtTreeMap.getElem?_erase]
  have counted : (m.filter fun _ c => p c).contains config = m[config]?.any p := by
    rw [Std.ExtTreeMap.contains_eq_isSome_getElem?, Std.ExtTreeMap.getElem?_filter']
    cases m[config]? with
    | none => rfl
    | some c => by_cases holds : p c = true <;> simp [Option.filter, holds]
  unfold countOf remove
  rw [others, Std.ExtTreeMap.size_erase, ← counted]
  by_cases kept : (m.filter fun _ c => p c).contains config = true
  · have positive : (m.filter fun _ c => p c).size ≠ 0 := by
      intro zero
      rw [Std.ExtTreeMap.eq_empty_iff_size_eq_zero.2 zero] at kept
      simp at kept
    rw [if_pos kept, if_pos kept]
    omega
  · rw [if_neg kept, if_neg kept, Nat.add_zero]

theorem countOf_insert (p : Contribution → Bool) (config : String) (c : Contribution) :
    countOf (m.insert config c) p = (m.remove config).countOf p + if p c then 1 else 0 := by
  have rest : remove (m.insert config c) config = m.remove config := by
    refine Std.ExtTreeMap.ext_getElem? fun {k} => ?_
    by_cases same : config = k
    · simp [remove, same]
    · simp [remove, same, Std.ExtTreeMap.getElem?_erase, Std.ExtTreeMap.getElem?_insert]
  rw [countOf_eq_remove _ p config, rest, Std.ExtTreeMap.getElem?_insert_self, Option.any_some]

theorem countOf_ne_zero {m : Contributions} {p : Contribution → Bool} :
    m.countOf p ≠ 0 ↔
      ∃ (config : String) (c : Contribution), m[config]? = some c ∧ p c = true := by
  constructor
  · intro positive
    by_contra none
    refine positive (Std.ExtTreeMap.eq_empty_iff_size_eq_zero.1 ?_)
    refine Std.ExtTreeMap.ext_getElem? fun {k} => ?_
    rw [Std.ExtTreeMap.getElem?_filter', Std.ExtTreeMap.getElem?_empty]
    cases kept : m[k]? with
    | none => rfl
    | some c =>
        refine Option.filter_eq_none_iff.2 fun d same holds => none ⟨k, d, ?_, holds⟩
        rw [kept, same]
  · rintro ⟨config, c, kept, holds⟩
    rw [m.countOf_eq_remove p config, kept, Option.any_some, if_pos holds]
    omega

theorem holders_ne_zero {m : Contributions} {a : Application} :
    m.holders a ≠ 0 ↔ a ∈ m.applications := by
  simp only [holders, countOf_ne_zero, mem_applications, Std.ExtTreeSet.contains_iff_mem]

theorem listings_ne_zero {m : Contributions} {type : TypeName} :
    m.listings type ≠ 0 ↔ type ∈ m.types := by
  simp only [listings, countOf_ne_zero, mem_types, Std.ExtTreeSet.contains_iff_mem]

end Contributions

/-! ### The answers to all questions -/

/-- The answers to all questions that can be put to an index. -/
structure View where
  mixinsFor : TypeName → List Application
  configEntries : String → List Application
  hasConfig : String → Bool
  configs : List String
  targets : List TypeName
  isAugmenting : TypeName → Bool
  augmentingTypes : List TypeName
  size : Nat
  counts : Index.Counts
  snapshot : Index.Snapshot

/-- The answers of an index. -/
def Index.view (x : Index) : View where
  mixinsFor := x.mixinsFor
  configEntries := x.configEntries
  hasConfig := x.hasConfig
  configs := x.configs
  targets := x.targets
  isAugmenting := x.isAugmenting
  augmentingTypes := x.augmentingTypes
  size := x.size
  counts := x.counts
  snapshot := x.snapshot

/-- The answers that a map of contributions gives. -/
def Contributions.view (m : Contributions) : View where
  mixinsFor target := (m.toTarget target).toList
  configEntries config := (m.ofConfig config).toList
  hasConfig config := m.contains config
  configs := m.keys
  targets := m.targets.toList
  isAugmenting type := m.types.contains type
  augmentingTypes := m.types.toList
  size := m.applications.size
  counts := ⟨m.size, m.targets.size, m.applications.size, m.types.size⟩
  snapshot :=
    { byTarget := .ofList (m.targets.toList.map fun target =>
        (target, (m.toTarget target).toList.map (·.augmenting)))
      byConfig := m.map fun _ c => c.applications.toList }

/-- The plain snapshot keeps the targets of applications and no others. -/
theorem Contributions.snapshot_byTarget (m : Contributions) (target : TypeName) :
    m.view.snapshot.byTarget[target]? =
      if target ∈ m.targets then some ((m.toTarget target).toList.map (·.augmenting))
      else none := by
  unfold Contributions.view
  dsimp only
  split
  · rename_i kept
    refine Std.ExtTreeMap.getElem?_ofList_of_mem (k := target) Std.ReflCmp.compare_self ?_ ?_
    · rw [List.pairwise_map]
      exact m.targets.distinct_toList
    · exact List.mem_map.2 ⟨target, Std.ExtTreeSet.mem_toList.2 kept, rfl⟩
  · rename_i absent
    refine Std.ExtTreeMap.getElem?_ofList_of_contains_eq_false ?_
    rw [Bool.eq_false_iff, ne_eq, List.contains_iff_mem, List.map_map]
    intro member
    obtain ⟨t, kept, rfl⟩ := List.mem_map.1 member
    exact absent (Std.ExtTreeSet.mem_toList.1 kept)

end MixinIndex
