import MixinIndex.Proofs.Contribution.Reading

/-!
# Indexes that reflect the declarations

The applications in an index are those of the types that its configs list.  As long as a type keeps
its declaration, or is pointed elsewhere whenever that changes, its applications are also those that
its declaration says.  So the index reflects the declarations, apart from the types whose changes
have not come to it yet.

## Main definitions

* `Contribution.Reflects`, `Index.Reflects`: the applications are what the declarations say, apart
  from some types

## Main statements

* `Index.Reflects.tryLoad`, `Index.Reflects.removeAll`: an index goes on reflecting
* `Index.Reflects.retargetTypes`: types that are pointed elsewhere need no longer be set apart
* `Index.Reflects.mixinsFor_eq`: the applications to a target are those of all listed types that
  name it, in the same order
* `Index.Reflects.mixinsFor_retargetTypes`: what pointing types elsewhere touches is all that it
  changes
-/

namespace MixinIndex

variable {targetsOf targetsOf' : TypeName → List TypeName} {apart apart' : TypeName → Prop}

/-! ### One config -/

/-- All applications are those of listed types; and a listed type that is not set apart is applied
to the targets that it names. -/
structure Contribution.Reflects (c : Contribution) (targetsOf : TypeName → List TypeName)
    (apart : TypeName → Prop) : Prop where
  listed : ∀ a ∈ c.applications, a.augmenting ∈ c.types
  targets : ∀ a : Application, a.augmenting ∈ c.types → ¬ apart a.augmenting →
    (a ∈ c.applications ↔ a.target ∈ targetsOf a.augmenting)

namespace Contribution.Reflects

variable {c : Contribution}

/-- Only the targets of the types that are not set apart count. -/
theorem mono (h : c.Reflects targetsOf apart)
    (same : ∀ type, ¬ apart' type → ¬ apart type ∧ targetsOf' type = targetsOf type) :
    c.Reflects targetsOf' apart' where
  listed := h.listed
  targets := by
    intro a listed reflected
    obtain ⟨before, named⟩ := same a.augmenting reflected
    rw [named]
    exact h.targets a listed before

/-- Types that are set apart for one reason only need not be set apart. -/
theorem and (h : c.Reflects targetsOf apart) (h' : c.Reflects targetsOf apart') :
    c.Reflects targetsOf fun type => apart type ∧ apart' type where
  listed := h.listed
  targets := by
    intro a listed reflected
    by_cases first : apart a.augmenting
    · exact h'.targets a listed fun second => reflected ⟨first, second⟩
    · exact h.targets a listed first

theorem retargetTypes (h : c.Reflects targetsOf apart) (types : List TypeName) :
    (c.retargetTypes targetsOf types).Reflects targetsOf
      fun type => apart type ∧ type ∉ types where
  listed := by
    intro a member
    rw [types_retargetTypes]
    rw [mem_applications_retargetTypes] at member
    split at member
    · rename_i moved
      exact moved.1
    · exact h.listed a member
  targets := by
    intro a listed reflected
    rw [types_retargetTypes] at listed
    rw [mem_applications_retargetTypes]
    by_cases moved : a.augmenting ∈ types
    · rw [if_pos ⟨listed, moved⟩]
    · rw [if_neg fun both => moved both.2]
      exact h.targets a listed fun before => reflected ⟨before, moved⟩

end Contribution.Reflects

theorem ConfigFile.reflects_contribution (file : ConfigFile)
    (targetsOf : TypeName → List TypeName) (apart : TypeName → Prop) :
    (file.contribution targetsOf).Reflects targetsOf apart where
  listed := by
    intro a member
    rw [mem_applications_contribution] at member
    exact mem_types_contribution.2 member.1
  targets := by
    intro a listed _
    rw [mem_types_contribution] at listed
    rw [mem_applications_contribution]
    exact and_iff_right listed

/-! ### Whole indexes -/

/-- What each config contributes to an index reflects the declarations, apart from some types. -/
def Index.Reflects (x : Index) (targetsOf : TypeName → List TypeName)
    (apart : TypeName → Prop) : Prop :=
  ∃ m, x.Represents m ∧
    ∀ (config : String) (c : Contribution), m[config]? = some c → c.Reflects targetsOf apart

namespace Index

variable {x : Index}

theorem reflects_empty (targetsOf : TypeName → List TypeName) (apart : TypeName → Prop) :
    ({} : Index).Reflects targetsOf apart := by
  refine ⟨∅, represents_empty, fun config c kept => ?_⟩
  rw [Std.ExtTreeMap.getElem?_empty] at kept
  cases kept

/-- An index has one map that it represents. -/
theorem Represents.map_unique {m n : Contributions} (h : x.Represents m) (h' : x.Represents n) :
    m = n := by
  refine Std.ExtTreeMap.ext_getElem? fun {config} => ?_
  have types := (h.listed config).symm.trans (h'.listed config)
  have applications := (h.byConfig config).symm.trans (h'.byConfig config)
  cases keptM : m[config]? with
  | none =>
      rw [keptM] at types
      exact (Option.map_eq_none_iff.1 types.symm).symm
  | some c =>
      cases keptN : n[config]? with
      | none =>
          rw [keptM, keptN] at types
          cases types
      | some d =>
          rw [keptM, keptN] at types applications
          exact congrArg some
            (Contribution.ext (Option.some.inj types) (Option.some.inj applications))

namespace Reflects

theorem mono (h : x.Reflects targetsOf apart)
    (same : ∀ type, ¬ apart' type → ¬ apart type ∧ targetsOf' type = targetsOf type) :
    x.Reflects targetsOf' apart' := by
  obtain ⟨m, represents, each⟩ := h
  exact ⟨m, represents, fun config c kept => (each config c kept).mono same⟩

theorem and (h : x.Reflects targetsOf apart) (h' : x.Reflects targetsOf apart') :
    x.Reflects targetsOf fun type => apart type ∧ apart' type := by
  obtain ⟨m, represents, each⟩ := h
  obtain ⟨n, represents', each'⟩ := h'
  obtain rfl := represents.map_unique represents'
  exact ⟨m, represents, fun config c kept => (each config c kept).and (each' config c kept)⟩

theorem markLoaded (h : x.Reflects targetsOf apart) : x.markLoaded.Reflects targetsOf apart := by
  obtain ⟨m, represents, each⟩ := h
  exact ⟨m, represents.markLoaded, each⟩

theorem removeAll (h : x.Reflects targetsOf apart) (configs : List String) :
    (x.removeAll configs).Reflects targetsOf apart := by
  obtain ⟨m, represents, each⟩ := h
  refine ⟨_, represents.removeAll configs, fun config c kept => ?_⟩
  rw [Contributions.getElem?_removeAll] at kept
  split at kept
  · cases kept
  · exact each config c kept

/-- A config is read with the targets that its types name now. -/
theorem tryLoad {names : AnnotationNames} {c : Catalogue} (h : x.Reflects (c.targetsOf names) apart)
    (config : String) (resource : Except Failure String) :
    (x.tryLoad names c config resource).Reflects (c.targetsOf names) apart := by
  obtain ⟨m, represents, each⟩ := h
  refine ⟨_, represents.tryLoad names c config resource, fun k d kept => ?_⟩
  rw [Contributions.getElem?_load] at kept
  split at kept
  · rcases Option.or_eq_some_iff.1 kept with read | ⟨-, old⟩
    · obtain ⟨file, -, rfl⟩ := Option.map_eq_some_iff.1 read
      exact file.reflects_contribution (c.targetsOf names) apart
    · exact each k d old
  · exact each k d kept

theorem retargetTypes (h : x.Reflects targetsOf apart) (types : List TypeName) :
    (x.retargetTypes targetsOf types).2.Reflects targetsOf
      fun type => apart type ∧ type ∉ types := by
  obtain ⟨m, represents, each⟩ := h
  refine ⟨_, represents.retargetTypes targetsOf types, fun config d kept => ?_⟩
  rw [Contributions.getElem?_retargetTypes] at kept
  obtain ⟨c, before, rfl⟩ := Option.map_eq_some_iff.1 kept
  exact (each config c before).retargetTypes types

/-! ### Questions -/

/-- The applications to a target are those of all listed types that name it, in the same order. -/
theorem mixinsFor_eq (h : x.Reflects targetsOf fun _ => False) (target : TypeName) :
    (x.mixinsFor target).map (·.augmenting) =
      x.augmentingTypes.filter fun type => decide (target ∈ targetsOf type) := by
  obtain ⟨m, represents, each⟩ := h
  have toTarget (a : Application) : a ∈ x.mixinsFor target ↔
      a.target = target ∧ a ∈ m.applications := by
    rw [mixinsFor, Std.ExtTreeSet.mem_toList, represents.bucket_eq, Contributions.mem_toTarget]
  -- both lists are sorted by augmenting type, so it is enough that they have the same members
  have sorted :
      ((x.mixinsFor target).map (·.augmenting)).Pairwise fun a b => compare a b = .lt := by
    rw [List.pairwise_map]
    refine (x.bucket target).ordered_toList.imp_of_mem fun {a b} first second less => ?_
    change (compare a.target b.target).then (compare a.augmenting b.augmenting) = .lt at less
    rwa [((toTarget a).1 first).1, ((toTarget b).1 second).1,
      (Std.ReflCmp.compare_self : compare target target = .eq)] at less
  have listed : x.augmentingTypes.Pairwise fun a b => compare a b = .lt := by
    rw [augmentingTypes, represents.keys_listings]
    exact m.types.ordered_toList
  refine eq_of_ordered sorted (listed.filter _) fun type => ?_
  rw [List.mem_map, List.mem_filter, augmentingTypes, represents.keys_listings,
    Std.ExtTreeSet.mem_toList, Contributions.mem_types, decide_eq_true_iff]
  simp only [toTarget, Contributions.mem_applications]
  constructor
  · rintro ⟨a, ⟨rfl, config, c, kept, member⟩, rfl⟩
    have listed := (each config c kept).listed a member
    exact ⟨⟨config, c, kept, listed⟩, ((each config c kept).targets a listed id).1 member⟩
  · rintro ⟨⟨config, c, kept, listed⟩, named⟩
    exact ⟨⟨target, type⟩, ⟨rfl, config, c, kept,
      ((each config c kept).targets ⟨target, type⟩ listed id).2 named⟩, rfl⟩

end Reflects

/-! ### What pointing types elsewhere touches -/

section Touched

variable {m : Contributions} {c : Contribution} {config : String} {t type : TypeName}

theorem subset_foldl_retargetType (types : List TypeName)
    {result : Std.ExtTreeSet TypeName × Index} (collected : t ∈ result.1) :
    t ∈ (types.foldl (retargetType targetsOf) result).1 := by
  induction types generalizing result with
  | nil => exact collected
  | cons other types ih =>
      refine ih ?_
      rw [retargetType]
      split
      · rw [mem_foldl_insert]
        exact Or.inl collected
      · exact collected

/-- The targets of a type that is pointed elsewhere, old and new, are touched. -/
theorem Represents.mem_foldl_retargetType {types : List TypeName}
    {result : Std.ExtTreeSet TypeName × Index} (h : result.2.Represents m)
    (kept : m[config]? = some c) (among : type ∈ types)
    (touched : t ∈ c.touched type (targetsOf type)) :
    t ∈ (types.foldl (Index.retargetType targetsOf) result).1 := by
  induction types generalizing result m c with
  | nil => cases among
  | cons first types ih =>
      by_cases now : type = first
      · subst now
        refine subset_foldl_retargetType types ?_
        have listed : result.2.isAugmenting type = true :=
          h.mem_types.2 (Contributions.mem_types.2
            ⟨config, c, kept, (Contribution.mem_touched.1 touched).1⟩)
        rw [Index.retargetType, if_pos listed, mem_foldl_insert, Std.ExtTreeSet.mem_toList,
          (h.retarget type (targetsOf type)).2, Contributions.mem_touched]
        exact Or.inr ⟨config, c, kept, touched⟩
      · -- what is pointed elsewhere later has its applications until then
        have later := (List.mem_cons.1 among).resolve_left now
        refine ih (c := c.retarget first (targetsOf first))
          (h.retargetType targetsOf result.1 first) ?_ later ?_
        · rw [Contributions.getElem?_retarget, kept]
          rfl
        · rw [Contribution.mem_touched] at touched ⊢
          rw [Contribution.types_retarget, Contribution.mem_applications_retarget,
            if_neg fun both => now both.2]
          exact touched

end Touched

namespace Reflects

/-- A target that is not touched has the same applications as before, and none is of a type that
was to be pointed elsewhere. -/
theorem mixinsFor_retargetTypes (h : x.Reflects targetsOf apart) {types : List TypeName}
    {target : TypeName} (untouched : target ∉ (x.retargetTypes targetsOf types).1) :
    (x.retargetTypes targetsOf types).2.mixinsFor target = x.mixinsFor target ∧
      ∀ a ∈ x.mixinsFor target, a.augmenting ∉ types := by
  obtain ⟨m, represents, each⟩ := h
  -- a listed type that was pointed elsewhere had not the target and has it not now
  have other {config : String} {c : Contribution} (kept : m[config]? = some c)
      {type : TypeName} (listed : type ∈ c.types) (among : type ∈ types) :
      ⟨target, type⟩ ∉ c.applications ∧ target ∉ targetsOf type := by
    rw [← not_or]
    intro either
    exact untouched (Represents.mem_foldl_retargetType represents kept among
      (Contribution.mem_touched.2 ⟨listed, either⟩))
  constructor
  · have buckets : (x.retargetTypes targetsOf types).2.bucket target = x.bucket target := by
      ext a
      rw [(represents.retargetTypes targetsOf types).bucket_eq, represents.bucket_eq,
        Contributions.mem_toTarget, Contributions.mem_toTarget]
      refine and_congr_right fun same => ?_
      subst same
      simp only [Contributions.mem_applications, Contributions.getElem?_retargetTypes]
      constructor
      · rintro ⟨config, d, kept, member⟩
        obtain ⟨c, before, rfl⟩ := Option.map_eq_some_iff.1 kept
        rw [Contribution.mem_applications_retargetTypes] at member
        split at member
        · rename_i moved
          exact absurd member (other before moved.1 moved.2).2
        · exact ⟨config, c, before, member⟩
      · rintro ⟨config, c, kept, member⟩
        refine ⟨config, c.retargetTypes targetsOf types, by rw [kept]; rfl, ?_⟩
        rw [Contribution.mem_applications_retargetTypes, if_neg]
        · exact member
        · exact fun moved => (other kept moved.1 moved.2).1 member
    rw [mixinsFor, buckets, mixinsFor]
  · intro a shown among
    rw [mixinsFor, Std.ExtTreeSet.mem_toList, represents.bucket_eq, Contributions.mem_toTarget,
      Contributions.mem_applications] at shown
    obtain ⟨rfl, config, c, kept, member⟩ := shown
    exact (other kept ((each config c kept).listed a member) among).1 member

end Reflects

end Index

end MixinIndex
