import Mathlib.Data.List.Nodup
import Mathlib.Tactic.Set
import MixinIndex.Proofs.Contribution.Counting
import MixinIndex.Proofs.Contribution.Plain

/-!
# An index refines its plain map

An index keeps its contributions twice, by target and by config, with two kinds of counts between
them.  What it represents is one plain map of contributions, and each operation on the index does
to this map what it says.

## Main definitions

* `Index.Represents`: the parts of an index all agree with one map of contributions

## Main statements

* `Index.Represents.unique`: the map determines the index
* `Index.Represents.replace`, `Index.Represents.remove`, `Index.Represents.retarget`: each
  operation does to the map what it says
* `Index.Represents.view`: the map answers all questions
-/

namespace MixinIndex

namespace Index

/-- All parts of an index agree with one map of contributions: both maps by config are its two
halves, and both tallies and the view by target are exact for it. -/
structure Represents (x : Index) (m : Contributions) : Prop where
  byConfig : ∀ config : String, x.byConfig[config]? = m[config]?.map Contribution.applications
  listed : ∀ config : String, x.listed[config]? = m[config]?.map Contribution.types
  listings : x.listings.Counts m.listings
  shows : x.Shows m.holders

theorem represents_empty : ({} : Index).Represents ∅ where
  byConfig := by simp
  listed := by simp
  listings := by
    intro type
    simp [Contributions.listings, Contributions.countOf_empty, Tally.count?]
  shows := by
    have zero : (∅ : Contributions).holders = fun _ => 0 := by
      funext a
      exact Contributions.countOf_empty _
    rw [zero]
    exact shows_empty

/-! ### What the steps leave alone -/

section Frame

variable (x : Index) (as : List Application)

theorem acquireAll_frame : (x.acquireAll as).byConfig = x.byConfig ∧
    (x.acquireAll as).listed = x.listed ∧ (x.acquireAll as).listings = x.listings ∧
    (x.acquireAll as).isLoaded = x.isLoaded := by
  induction as generalizing x with
  | nil => exact ⟨rfl, rfl, rfl, rfl⟩
  | cons a as ih => exact ih (x.acquire a)

theorem releaseAll_frame : (x.releaseAll as).byConfig = x.byConfig ∧
    (x.releaseAll as).listed = x.listed ∧ (x.releaseAll as).listings = x.listings ∧
    (x.releaseAll as).isLoaded = x.isLoaded := by
  induction as generalizing x with
  | nil => exact ⟨rfl, rfl, rfl, rfl⟩
  | cons a as ih => exact ih (x.release a)

end Frame

/-! ### The mark of the first build -/

theorem isLoaded_remove (x : Index) (config : String) :
    (x.remove config).2.isLoaded = x.isLoaded :=
  (releaseAll_frame _ _).2.2.2

theorem isLoaded_removeAll (x : Index) (configs : List String) :
    (x.removeAll configs).isLoaded = x.isLoaded := by
  induction configs generalizing x with
  | nil => rfl
  | cons config configs ih => exact (ih _).trans (x.isLoaded_remove config)

theorem isLoaded_replace (x : Index) (config : String) (types : List TypeName)
    (applications : List Application) :
    (x.replace config types applications).2.isLoaded = x.isLoaded :=
  (acquireAll_frame _ _).2.2.2.trans (x.isLoaded_remove config)

theorem isLoaded_retargetIn (augmenting : TypeName) (targets : Std.ExtTreeSet TypeName)
    (x : Index) (config : String) :
    (x.retargetIn augmenting targets config).2.isLoaded = x.isLoaded := by
  rw [retargetIn]
  cases x.byConfig[config]? with
  | none => exact (acquireAll_frame _ _).2.2.2
  | some applications =>
      exact (acquireAll_frame _ _).2.2.2.trans (releaseAll_frame _ _).2.2.2

theorem isLoaded_retargetAll (augmenting : TypeName) (targets : Std.ExtTreeSet TypeName)
    (configs : List String) (result : Std.ExtTreeSet TypeName × Index) :
    (retargetAll augmenting targets configs result).2.isLoaded = result.2.isLoaded := by
  induction configs generalizing result with
  | nil => rfl
  | cons config configs ih => exact (ih _).trans (isLoaded_retargetIn _ _ _ config)

theorem isLoaded_retargetTypes (targetsOf : TypeName → List TypeName) (types : List TypeName)
    (x : Index) : (x.retargetTypes targetsOf types).2.isLoaded = x.isLoaded := by
  have steps (result : Std.ExtTreeSet TypeName × Index) :
      (types.foldl (retargetType targetsOf) result).2.isLoaded = result.2.isLoaded := by
    induction types generalizing result with
    | nil => rfl
    | cons type types ih =>
        refine (ih _).trans ?_
        rw [retargetType]
        split
        · exact isLoaded_retargetAll _ _ _ _
        · rfl
  exact steps (∅, x)

theorem nodup_configsListing (x : Index) (type : TypeName) : (x.configsListing type).Nodup := by
  refine List.Nodup.sublist (List.filter_sublist.map _) ?_
  rw [Std.ExtTreeMap.map_fst_toList_eq_keys]
  exact x.listed.nodup_keys

/-- The tally and the view by target are exact whatever the other parts are. -/
theorem Shows.congr {x y : Index} {n : Application → Nat} (h : x.Shows n)
    (holders : y.holders = x.holders) (byTarget : y.byTarget = x.byTarget) : y.Shows n := by
  refine ⟨?_, ?_, ?_⟩
  · rw [holders]
    exact h.counts
  · intro target a
    rw [bucket, byTarget]
    exact h.mem_bucket target a
  · intro target b kept
    rw [byTarget] at kept
    exact h.nonempty kept

namespace Represents

variable {x y : Index} {m : Contributions}

/-! ### One map, one index -/

/-- Two indexes that represent the same map are equal, the mark of the first build apart. -/
theorem unique (hx : x.Represents m) (hy : y.Represents m) (loaded : x.isLoaded = y.isLoaded) :
    x = y := by
  have byConfig : x.byConfig = y.byConfig := Std.ExtTreeMap.ext_getElem? fun {k} =>
    (hx.byConfig k).trans (hy.byConfig k).symm
  have listed : x.listed = y.listed := Std.ExtTreeMap.ext_getElem? fun {k} =>
    (hx.listed k).trans (hy.listed k).symm
  have byTarget : x.byTarget = y.byTarget := by
    have bucket (target : TypeName) : x.bucket target = y.bucket target := by
      ext a
      rw [hx.shows.mem_bucket, hy.shows.mem_bucket]
    refine Std.ExtTreeMap.ext_getElem? fun {target} => ?_
    have same := bucket target
    simp only [Index.bucket] at same
    cases keptX : x.byTarget[target]? with
    | none =>
        cases keptY : y.byTarget[target]? with
        | none => rfl
        | some b =>
            rw [keptX, keptY] at same
            exact absurd same.symm (hy.shows.nonempty keptY)
    | some b =>
        cases keptY : y.byTarget[target]? with
        | none =>
            rw [keptX, keptY] at same
            exact absurd same (hx.shows.nonempty keptX)
        | some c =>
            rw [keptX, keptY] at same
            exact congrArg some same
  have holders := hx.shows.counts.unique hy.shows.counts
  have listings := hx.listings.unique hy.listings
  cases x
  cases y
  simp_all

theorem markLoaded (h : x.Represents m) : x.markLoaded.Represents m :=
  ⟨h.byConfig, h.listed, h.listings, h.shows.congr rfl rfl⟩

/-! ### Operations -/

theorem ofConfig (h : x.Represents m) (config : String) :
    x.ofConfig config = m.ofConfig config := by
  rw [Index.ofConfig, h.byConfig, Contributions.ofConfig]

theorem remove (h : x.Represents m) (config : String) :
    (x.remove config).2.Represents (m.remove config) := by
  obtain ⟨byConfig, listed, listings, -⟩ := releaseAll_frame
    { x with
      listings := (x.listedBy config).toList.foldl Tally.lower x.listings
      listed := x.listed.erase config
      byConfig := x.byConfig.erase config } (x.ofConfig config).toList
  refine ⟨fun k => ?_, fun k => ?_, ?_, ?_⟩
  · rw [Index.remove, byConfig, Contributions.remove, Std.ExtTreeMap.getElem?_erase,
      Std.ExtTreeMap.getElem?_erase, h.byConfig]
    split <;> rfl
  · rw [Index.remove, listed, Contributions.remove, Std.ExtTreeMap.getElem?_erase,
      Std.ExtTreeMap.getElem?_erase, h.listed]
    split <;> rfl
  · rw [Index.remove, listings]
    have lowered := h.listings.foldl_lower (x.listedBy config).toList
    have fewer : (fun type => m.listings type - (x.listedBy config).toList.count type) =
        (m.remove config).listings := by
      funext type
      have split := m.countOf_eq_remove (·.types.contains type) config
      rw [count_toList_set, listedBy, h.listed]
      unfold Contributions.listings
      cases kept : m[config]? with
      | none => simp [split, kept]
      | some c => simp [split, kept]
    rwa [← fewer]
  · have released := Shows.releaseAll (x.ofConfig config).toList
      (h.shows.congr (y := { x with
        listings := (x.listedBy config).toList.foldl Tally.lower x.listings
        listed := x.listed.erase config
        byConfig := x.byConfig.erase config }) rfl rfl)
    have fewer : (fun a => m.holders a - (x.ofConfig config).toList.count a) =
        (m.remove config).holders := by
      funext a
      have split := m.countOf_eq_remove (·.applications.contains a) config
      rw [count_toList_set, h.ofConfig, Contributions.ofConfig]
      unfold Contributions.holders
      cases kept : m[config]? with
      | none => simp [split, kept]
      | some c => simp [split, kept]
    rwa [← fewer]

theorem removeAll (h : x.Represents m) (configs : List String) :
    (x.removeAll configs).Represents (configs.foldl Contributions.remove m) := by
  induction configs generalizing x m with
  | nil => exact h
  | cons config configs ih => exact ih (h.remove config)

/-- Adding what a config contributes that contributed nothing. -/
theorem add (h : x.Represents m) {config : String} (absent : m[config]? = none)
    (c : Contribution) :
    (Index.acquireAll { x with
      listings := c.types.toList.foldl Tally.raise x.listings
      listed := x.listed.insert config c.types
      byConfig := x.byConfig.insert config c.applications }
      c.applications.toList).Represents (m.insert config c) := by
  have counted (p : Contribution → Bool) :
      Contributions.countOf (m.insert config c) p = m.countOf p + if p c then 1 else 0 := by
    rw [Contributions.countOf_insert, m.countOf_eq_remove p config, absent]
    rfl
  obtain ⟨byConfig, listed, listings, -⟩ := acquireAll_frame
    { x with
      listings := c.types.toList.foldl Tally.raise x.listings
      listed := x.listed.insert config c.types
      byConfig := x.byConfig.insert config c.applications } c.applications.toList
  refine ⟨fun k => ?_, fun k => ?_, ?_, ?_⟩
  · rw [byConfig, Std.ExtTreeMap.getElem?_insert, Std.ExtTreeMap.getElem?_insert, h.byConfig]
    split <;> rfl
  · rw [listed, Std.ExtTreeMap.getElem?_insert, Std.ExtTreeMap.getElem?_insert, h.listed]
    split <;> rfl
  · rw [listings]
    have raised := h.listings.foldl_raise c.types.toList
    have more : (fun type => m.listings type + c.types.toList.count type) =
        Contributions.listings (m.insert config c) := by
      funext type
      rw [count_toList_set, Contributions.listings, Contributions.listings, counted]
      simp only [Std.ExtTreeSet.contains_iff_mem]
    rwa [← more]
  · have acquired := Shows.acquireAll c.applications.toList
      (h.shows.congr (y := { x with
        listings := c.types.toList.foldl Tally.raise x.listings
        listed := x.listed.insert config c.types
        byConfig := x.byConfig.insert config c.applications }) rfl rfl)
    have more : (fun a => m.holders a + c.applications.toList.count a) =
        Contributions.holders (m.insert config c) := by
      funext a
      rw [count_toList_set, Contributions.holders, Contributions.holders, counted]
      simp only [Std.ExtTreeSet.contains_iff_mem]
    rwa [← more]

theorem replace (h : x.Represents m) (config : String) (types : List TypeName)
    (applications : List Application) :
    (x.replace config types applications).2.Represents
      (m.replace config types applications) := by
  have absent : (m.remove config)[config]? = none := Std.ExtTreeMap.getElem?_erase_self
  have overwritten : (m.remove config).insert config (.ofLists types applications) =
      m.replace config types applications := by
    refine Std.ExtTreeMap.ext_getElem? fun {k} => ?_
    rw [Contributions.replace, Contributions.remove, Std.ExtTreeMap.getElem?_insert,
      Std.ExtTreeMap.getElem?_insert, Std.ExtTreeMap.getElem?_erase]
    split <;> rfl
  rw [← overwritten]
  exact (h.remove config).add absent (.ofLists types applications)

/-! ### Pointing an augmenting type elsewhere -/

/-- Pointing a listed type elsewhere in one config does so in the map, and says what its targets
were. -/
theorem retargetIn (h : x.Represents m) {augmenting : TypeName} {config : String}
    {c : Contribution} (kept : m[config]? = some c) (listed : augmenting ∈ c.types)
    (targets : List TypeName) :
    (x.retargetIn augmenting (.ofList targets) config).2.Represents
        (m.insert config (c.retarget augmenting targets)) ∧
      ∀ t, t ∈ (x.retargetIn augmenting (.ofList targets) config).1 ++
          (Std.ExtTreeSet.ofList targets).toList ↔ t ∈ c.touched augmenting targets := by
  have stored : x.byConfig[config]? = some c.applications := by
    rw [h.byConfig, kept]
    rfl
  -- what leaves the bucket of the config, and what enters it
  set old := c.applications.toList.filter (·.augmenting == augmenting) with oldDef
  set new := Application.toTargets augmenting (Std.ExtTreeSet.ofList targets).toList with newDef
  have countOld (a : Application) :
      old.count a = if a ∈ c.applications ∧ a.augmenting = augmenting then 1 else 0 := by
    rw [oldDef, ((nodup_toList_set _).filter _).count]
    simp only [List.mem_filter, Std.ExtTreeSet.mem_toList, beq_iff_eq]
  have countNew (a : Application) :
      new.count a = if a.augmenting = augmenting ∧ a.target ∈ targets then 1 else 0 := by
    have distinct : new.Nodup := by
      refine (nodup_toList_set (Std.ExtTreeSet.ofList targets)).map ?_
      exact fun s t same => congrArg Application.target same
    rw [distinct.count, newDef]
    simp only [Application.mem_toTargets, Std.ExtTreeSet.mem_toList, mem_ofList_set]
  have bucket : new.foldl (·.insert ·) (old.foldl (·.erase ·) c.applications) =
      (c.retarget augmenting targets).applications := by
    ext a
    rw [mem_foldl_insert, mem_foldl_erase, Contribution.mem_applications_retarget, newDef, oldDef,
      Application.mem_toTargets, List.mem_filter]
    simp only [Std.ExtTreeSet.mem_toList, mem_ofList_set, beq_iff_eq, listed, true_and]
    by_cases same : a.augmenting = augmenting <;> simp [same]
  have result : x.retargetIn augmenting (.ofList targets) config = (old.map (·.target),
      (Index.releaseAll { x with
        byConfig := x.byConfig.insert config (c.retarget augmenting targets).applications }
        old).acquireAll new) := by
    rw [Index.retargetIn, stored, ← bucket]
  obtain ⟨byConfig, listedBy, listings, -⟩ := acquireAll_frame (Index.releaseAll { x with
    byConfig := x.byConfig.insert config (c.retarget augmenting targets).applications } old) new
  obtain ⟨byConfig', listedBy', listings', -⟩ := releaseAll_frame { x with
    byConfig := x.byConfig.insert config (c.retarget augmenting targets).applications } old
  rw [result]
  refine ⟨⟨fun k => ?_, fun k => ?_, ?_, ?_⟩, fun t => ?_⟩
  · rw [byConfig, byConfig', Std.ExtTreeMap.getElem?_insert, Std.ExtTreeMap.getElem?_insert,
      h.byConfig]
    split <;> rfl
  · rw [listedBy, listedBy', h.listed, Std.ExtTreeMap.getElem?_insert]
    by_cases same : config = k
    · simp [← same, kept]
    · simp [same]
  · rw [listings, listings']
    have same : Contributions.listings (m.insert config (c.retarget augmenting targets)) =
        m.listings := by
      funext type
      rw [Contributions.listings, Contributions.listings, Contributions.countOf_insert,
        m.countOf_eq_remove _ config, kept, Option.any_some, Contribution.types_retarget]
    rw [same]
    exact h.listings
  · have moved := ((h.shows.congr (y := { x with
      byConfig := x.byConfig.insert config (c.retarget augmenting targets).applications })
      rfl rfl).releaseAll old).acquireAll new
    have counted : (fun a => m.holders a - old.count a + new.count a) =
        Contributions.holders (m.insert config (c.retarget augmenting targets)) := by
      funext a
      rw [Contributions.holders, Contributions.holders, Contributions.countOf_insert,
        m.countOf_eq_remove _ config, kept, Option.any_some, countOld, countNew]
      simp only [Std.ExtTreeSet.contains_iff_mem, Contribution.mem_applications_retarget, listed,
        true_and]
      by_cases same : a.augmenting = augmenting
      · by_cases held : a ∈ c.applications <;> simp [same, held]
      · simp [same]
    rwa [← counted]
  · rw [List.mem_append, List.mem_map, Std.ExtTreeSet.mem_toList, mem_ofList_set,
      Contribution.touched, if_pos listed, List.mem_append, List.mem_map]

/-- Pointing a listed type elsewhere in several configs, one after the other. -/
theorem retargetAll {augmenting : TypeName} (targets : List TypeName) {configs : List String}
    (distinct : configs.Nodup) (h : x.Represents m)
    (listed : ∀ config ∈ configs, ∃ c, m[config]? = some c ∧ augmenting ∈ c.types)
    (stale : Std.ExtTreeSet TypeName) :
    ∃ n : Contributions,
      (Index.retargetAll augmenting (.ofList targets) configs (stale, x)).2.Represents n ∧
      (∀ k : String, n[k]? = if k ∈ configs
        then m[k]?.map (·.retarget augmenting targets) else m[k]?) ∧
      ∀ t, t ∈ (Index.retargetAll augmenting (.ofList targets) configs (stale, x)).1 ↔
        t ∈ stale ∨ ∃ config ∈ configs, ∃ c, m[config]? = some c ∧
          t ∈ c.touched augmenting targets := by
  induction configs generalizing x m stale with
  | nil =>
      refine ⟨m, h, fun k => ?_, fun t => ?_⟩
      · simp
      · simp [Index.retargetAll]
  | cons config configs ih =>
      obtain ⟨c, kept, augments⟩ := listed config List.mem_cons_self
      obtain ⟨fresh, distinct⟩ := List.nodup_cons.1 distinct
      obtain ⟨moved, touched⟩ := h.retargetIn kept augments targets
      -- the configs still to come are untouched by the step
      have rest (k : String) (other : k ≠ config) :
          (m.insert config (c.retarget augmenting targets))[k]? = m[k]? := by
        rw [Std.ExtTreeMap.getElem?_insert]
        simp [Ne.symm other]
      have others (k : String) (h : k ∈ configs) : k ≠ config := by
        rintro rfl
        exact fresh h
      obtain ⟨n, represents, lookup, collected⟩ := ih distinct moved
        (fun k h => by
          rw [rest k (others k h)]
          exact listed k (List.mem_cons_of_mem _ h))
        (((x.retargetIn augmenting (.ofList targets) config).1 ++
          (Std.ExtTreeSet.ofList targets).toList).foldl (·.insert ·) stale)
      refine ⟨n, represents, fun k => ?_, fun t => ?_⟩
      · rw [lookup k]
        by_cases same : k = config
        · subst same
          simp [fresh, kept]
        · rw [rest k same]
          simp [same]
      · refine (collected t).trans ?_
        rw [mem_foldl_insert, touched, or_assoc]
        refine or_congr Iff.rfl ?_
        constructor
        · rintro (here | ⟨k, h, d, keptHere, there⟩)
          · exact ⟨config, List.mem_cons_self, c, kept, here⟩
          · rw [rest k (others k h)] at keptHere
            exact ⟨k, List.mem_cons_of_mem _ h, d, keptHere, there⟩
        · rintro ⟨k, h, d, keptHere, there⟩
          rcases List.mem_cons.1 h with rfl | h
          · rw [kept, Option.some.injEq] at keptHere
            exact Or.inl (keptHere ▸ there)
          · refine Or.inr ⟨k, h, d, ?_, there⟩
            rw [rest k (others k h)]
            exact keptHere

theorem mem_configsListing (h : x.Represents m) {type : TypeName} {config : String} :
    config ∈ x.configsListing type ↔ ∃ c, m[config]? = some c ∧ type ∈ c.types := by
  simp only [configsListing, List.mem_map, List.mem_filter, Prod.exists, exists_and_right,
    exists_eq_right, Std.ExtTreeMap.mem_toList_iff_getElem?_eq_some, h.listed,
    Std.ExtTreeSet.contains_iff_mem, Option.map_eq_some_iff]
  constructor
  · rintro ⟨types, ⟨c, kept, rfl⟩, listed⟩
    exact ⟨c, kept, listed⟩
  · rintro ⟨c, kept, listed⟩
    exact ⟨c.types, ⟨c, kept, rfl⟩, listed⟩

theorem retarget (h : x.Represents m) (augmenting : TypeName) (targets : List TypeName) :
    (x.retarget augmenting targets).2.Represents (m.retarget augmenting targets) ∧
      (x.retarget augmenting targets).1 = m.touched augmenting targets := by
  obtain ⟨n, represents, lookup, collected⟩ := h.retargetAll targets
    (x.nodup_configsListing augmenting) (fun config listed => h.mem_configsListing.1 listed) ∅
  have moved : n = m.retarget augmenting targets := by
    refine Std.ExtTreeMap.ext_getElem? fun {k} => ?_
    rw [lookup k, Contributions.getElem?_retarget]
    split
    · rfl
    · rename_i absent
      cases kept : m[k]? with
      | none => rfl
      | some c =>
          have unlisted : augmenting ∉ c.types := fun listed =>
            absent (h.mem_configsListing.2 ⟨c, kept, listed⟩)
          simp [Contribution.retarget, unlisted]
  refine ⟨moved ▸ represents, ?_⟩
  ext t
  rw [Index.retarget, collected, Contributions.mem_touched]
  simp only [Std.ExtTreeSet.not_mem_empty, false_or]
  constructor
  · rintro ⟨config, -, c, kept, touched⟩
    exact ⟨config, c, kept, touched⟩
  · rintro ⟨config, c, kept, touched⟩
    refine ⟨config, h.mem_configsListing.2 ⟨c, kept, ?_⟩, c, kept, touched⟩
    by_contra unlisted
    simp [Contribution.touched, unlisted] at touched

theorem mem_types (h : x.Represents m) {type : TypeName} :
    x.isAugmenting type = true ↔ type ∈ m.types := by
  rw [← Contributions.listings_ne_zero]
  exact h.listings.contains_iff type

/-- Only types that some config lists have to be pointed elsewhere. -/
theorem retargetType (h : x.Represents m) (targetsOf : TypeName → List TypeName)
    (stale : Std.ExtTreeSet TypeName) (type : TypeName) :
    (Index.retargetType targetsOf (stale, x) type).2.Represents
      (m.retarget type (targetsOf type)) := by
  rw [Index.retargetType]
  by_cases listed : x.isAugmenting type = true
  · rw [if_pos listed]
    exact (h.retarget type (targetsOf type)).1
  · have unlisted : type ∉ m.types := fun member => listed (h.mem_types.2 member)
    rw [if_neg listed, Contributions.retarget_of_not_mem unlisted]
    exact h

theorem retargetTypes (h : x.Represents m) (targetsOf : TypeName → List TypeName)
    (types : List TypeName) :
    (x.retargetTypes targetsOf types).2.Represents (m.retargetTypes targetsOf types) := by
  have steps (result : Std.ExtTreeSet TypeName × Index) {m : Contributions}
      (h : result.2.Represents m) :
      (types.foldl (Index.retargetType targetsOf) result).2.Represents
        (m.retargetTypes targetsOf types) := by
    induction types generalizing result m with
    | nil => exact h
    | cons type types ih => exact ih _ (h.retargetType targetsOf result.1 type)
  exact steps (∅, x) h

/-! ### Questions -/

theorem listed_eq (h : x.Represents m) : x.listed = m.map fun _ c => c.types := by
  refine Std.ExtTreeMap.ext_getElem? fun {config} => ?_
  rw [h.listed, Std.ExtTreeMap.getElem?_map]

theorem bucket_eq (h : x.Represents m) (target : TypeName) :
    x.bucket target = m.toTarget target := by
  ext a
  rw [h.shows.mem_bucket, Contributions.mem_toTarget, Contributions.holders_ne_zero]

theorem mem_byTarget (h : x.Represents m) (target : TypeName) :
    target ∈ x.byTarget ↔ target ∈ m.targets := by
  rw [Contributions.mem_targets, Std.ExtTreeMap.mem_iff_isSome_getElem?]
  have bucket := h.bucket_eq target
  rw [Index.bucket] at bucket
  cases kept : x.byTarget[target]? with
  | none =>
      rw [kept, Option.getD_none] at bucket
      refine iff_of_false Bool.false_ne_true ?_
      rintro ⟨a, held, same⟩
      have hidden : a ∈ m.toTarget target := Contributions.mem_toTarget.2 ⟨same, held⟩
      rw [← bucket] at hidden
      exact Std.ExtTreeSet.not_mem_empty hidden
  | some b =>
      rw [kept, Option.getD_some] at bucket
      refine iff_of_true rfl ?_
      by_contra none
      refine h.shows.nonempty kept (Std.ExtTreeSet.eq_empty_iff_forall_not_mem.2 fun a shown => ?_)
      rw [bucket, Contributions.mem_toTarget] at shown
      exact none ⟨a, shown.2, shown.1⟩

theorem keys_byTarget (h : x.Represents m) : x.byTarget.keys = m.targets.toList :=
  keys_eq_toList x.byTarget m.targets h.mem_byTarget

theorem keys_holders (h : x.Represents m) : x.holders.keys = m.applications.toList :=
  keys_eq_toList x.holders.counts m.applications fun a => by
    rw [← Contributions.holders_ne_zero, ← h.shows.counts.contains_iff]
    exact Std.ExtTreeMap.contains_iff_mem.symm

theorem keys_listings (h : x.Represents m) : x.listings.keys = m.types.toList :=
  keys_eq_toList x.listings.counts m.types fun type => by
    rw [← Contributions.listings_ne_zero, ← h.listings.contains_iff]
    exact Std.ExtTreeMap.contains_iff_mem.symm

theorem counts_eq (h : x.Represents m) : x.counts = m.view.counts := by
  have targets : x.byTarget.size = m.targets.size := by
    rw [← Std.ExtTreeMap.length_keys, h.keys_byTarget, Std.ExtTreeSet.length_toList]
  have applications : x.holders.size = m.applications.size := by
    rw [Tally.size, ← Std.ExtTreeMap.length_keys, ← Std.ExtTreeSet.length_toList,
      ← h.keys_holders, Tally.keys]
  have types : x.listings.size = m.types.size := by
    rw [Tally.size, ← Std.ExtTreeMap.length_keys, ← Std.ExtTreeSet.length_toList,
      ← h.keys_listings, Tally.keys]
  rw [Index.counts, targets, applications, types, h.listed_eq, Std.ExtTreeMap.size_map]
  rfl

theorem snapshot_eq (h : x.Represents m) : x.snapshot = m.view.snapshot := by
  have byTarget : x.snapshot.byTarget = m.view.snapshot.byTarget := by
    refine Std.ExtTreeMap.ext_getElem? fun {target} => ?_
    have member := h.mem_byTarget target
    have bucket := h.bucket_eq target
    rw [Std.ExtTreeMap.mem_iff_isSome_getElem?] at member
    rw [Index.bucket] at bucket
    rw [Index.snapshot, Std.ExtTreeMap.getElem?_map, Contributions.snapshot_byTarget]
    cases kept : x.byTarget[target]? with
    | none =>
        rw [kept] at member
        rw [if_neg fun shown => Bool.false_ne_true (member.2 shown)]
        rfl
    | some b =>
        rw [kept] at member
        rw [kept, Option.getD_some] at bucket
        rw [if_pos (member.1 rfl), bucket]
        rfl
  have byConfig : x.snapshot.byConfig = m.view.snapshot.byConfig := by
    refine Std.ExtTreeMap.ext_getElem? fun {config} => ?_
    simp only [Index.snapshot, Contributions.view, Std.ExtTreeMap.getElem?_map, h.byConfig,
      Option.map_map]
    rfl
  exact Index.Snapshot.ext byTarget byConfig

/-- An index answers all questions as the map does that it represents. -/
theorem view (h : x.Represents m) : x.view = m.view := by
  have hasConfig (config : String) : x.hasConfig config = m.contains config := by
    rw [Index.hasConfig, h.listed_eq, Std.ExtTreeMap.contains_map]
  have isAugmenting (type : TypeName) : x.isAugmenting type = m.types.contains type := by
    rw [Bool.eq_iff_iff, Std.ExtTreeSet.contains_iff_mem]
    exact h.mem_types
  rw [Index.view, Contributions.view, View.mk.injEq]
  refine ⟨?_, ?_, ?_, ?_, h.keys_byTarget, ?_, h.keys_listings, ?_, h.counts_eq, h.snapshot_eq⟩
  · funext target
    rw [Index.mixinsFor, h.bucket_eq]
  · funext config
    rw [Index.configEntries, h.ofConfig]
  · funext config
    exact hasConfig config
  · rw [Index.configs, h.listed_eq, Std.ExtTreeMap.keys_map]
  · funext type
    exact isAugmenting type
  · exact congrArg Index.Counts.applications h.counts_eq

end Represents

end Index

end MixinIndex
