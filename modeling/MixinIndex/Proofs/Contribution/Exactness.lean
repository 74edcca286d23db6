import MixinIndex.Proofs.Contribution.Changes

/-!
# Counts are exact

What an index counts is what its configs hold, whatever was done to it.  An operation lets go of
much before it takes hold again, so the counts are also looked at on the way: the operations run
once more with letting go as a partial step, which has no result where there is no holder to lose.
They come to an end all the same.

## Main definitions

* `Index.IsExact`: the counts and the view by target agree with the two maps by config
* `Tally.lower?`, `Index.release?`: letting go, which needs a holder
* `Index.remove?`, `Index.replace?`, `Index.retarget?`: the operations that let go in this way
* `Index.change?`, `Index.changeAll?`: any operation, and operations one after the other

## Main statements

* `foldlM_lower_eq_some`: letting go of distinct keys that all have holders
* `Index.Represents.isExact`: an index that represents a map is exact
* `Index.Represents.change?`: no operation lets go of what nobody holds
* `Index.changeAll_exact`: all sequences of operations

## Design notes

Lowering a count that is not there leaves it alone, and lowering zero gives zero, so a count that is
lowered once too often cannot be told from an exact one by its number alone.  The partial steps can
tell: they agree with the total ones only if each of them finds what it lowers.
-/

namespace MixinIndex

open Std (TransOrd LawfulEqOrd)

/-! ### Letting go of what is held -/

section Lowering

variable {K S : Type} [DecidableEq K]

/-- Steps that each lower one number can be taken one after the other where the keys are distinct
and none of their numbers is zero: what one step lowers is no concern of the later ones. -/
theorem foldlM_lower_eq_some {exact : S → (K → Nat) → Prop} {step : S → K → S}
    {step? : S → K → Option S}
    (defined : ∀ {s n key}, exact s n → n key ≠ 0 → step? s key = some (step s key))
    (lowered : ∀ {s n}, exact s n → ∀ key,
      exact (step s key) fun k => n k - if key = k then 1 else 0)
    {keys : List K} (distinct : keys.Nodup) {s : S} {n : K → Nat} (h : exact s n)
    (held : ∀ key ∈ keys, n key ≠ 0) :
    keys.foldlM step? s = some (keys.foldl step s) := by
  induction keys generalizing s n with
  | nil => rfl
  | cons key keys ih =>
      obtain ⟨fresh, distinct⟩ := List.nodup_cons.1 distinct
      obtain ⟨heldNow, heldLater⟩ := List.forall_mem_cons.1 held
      rw [List.foldlM_cons, defined h heldNow]
      refine ih distinct (lowered h key) fun k member => ?_
      have other : key ≠ k := by
        rintro rfl
        exact fresh member
      rw [if_neg other]
      exact heldLater k member

end Lowering

namespace Tally

variable {K : Type} [Ord K] [TransOrd K]

/-- One holder of a key less, with no result if the key is not kept or is kept without holders. -/
def lower? (t : Tally K) (key : K) : Option (Tally K) :=
  if t.count? key = none ∨ t.count? key = some 0 then none else some (t.lower key)

theorem Counts.lower?_eq_some {t : Tally K} {n : K → Nat} (h : t.Counts n) {key : K}
    (held : n key ≠ 0) : t.lower? key = some (t.lower key) := by
  have kept : t.count? key = some (n key) := by rw [h key, if_neg held]
  rw [lower?, kept, if_neg]
  simpa using held

/-- An exact tally keeps the numbers that are positive. -/
theorem Counts.count?_eq_some_iff {t : Tally K} {n : K → Nat} (h : t.Counts n) {key : K}
    {count : Nat} : t.count? key = some count ↔ count = n key ∧ 0 < count := by
  rw [h key]
  split_ifs with zero
  · refine iff_of_false nofun ?_
    omega
  · rw [Option.some.injEq]
    omega

end Tally

namespace Index

/-! ### Operations that need a holder to lose -/

/-- One config less contributes an application, with no result if none does. -/
def release? (x : Index) (a : Application) : Option Index := do
  let holders ← x.holders.lower? a
  return { x with
    holders
    byTarget := if x.holders.isLast a then hide x.byTarget a else x.byTarget }

/-- One config less contributes each of some applications. -/
def releaseAll? (x : Index) (as : List Application) : Option Index := as.foldlM release? x

/-- Drop what a config contributes; also say what that was. -/
def remove? (x : Index) (config : String) : Option (Std.ExtTreeSet Application × Index) := do
  let removed := x.ofConfig config
  let listings ← (x.listedBy config).toList.foldlM Tally.lower? x.listings
  let y ← { x with
    listings
    listed := x.listed.erase config
    byConfig := x.byConfig.erase config }.releaseAll? removed.toList
  return (removed, y)

/-- Set what a config contributes; also count its applications. -/
def replace? (x : Index) (config : String) (types : List TypeName)
    (applications : List Application) : Option (Nat × Index) := do
  let types := Std.ExtTreeSet.ofList types
  let applications := Std.ExtTreeSet.ofList applications
  let (_, y) ← x.remove? config
  return (applications.size, { y with
    listings := types.toList.foldl Tally.raise y.listings
    listed := y.listed.insert config types
    byConfig := y.byConfig.insert config applications }.acquireAll applications.toList)

/-- Point an augmenting type at other targets in one config; also say where it pointed. -/
def retargetIn? (augmenting : TypeName) (targets : Std.ExtTreeSet TypeName) (x : Index)
    (config : String) : Option (List TypeName × Index) :=
  let new := Application.toTargets augmenting targets.toList
  match x.byConfig[config]? with
  | none => some ([], x.acquireAll new)
  | some applications => do
    let old := applications.toList.filter (·.augmenting == augmenting)
    let bucket := new.foldl (·.insert ·) (old.foldl (·.erase ·) applications)
    let y ← { x with byConfig := x.byConfig.insert config bucket }.releaseAll? old
    return (old.map (·.target), y.acquireAll new)

/-- Point an augmenting type at other targets in some configs, collecting the targets touched. -/
def retargetAll? (augmenting : TypeName) (targets : Std.ExtTreeSet TypeName) :
    List String → Std.ExtTreeSet TypeName × Index → Option (Std.ExtTreeSet TypeName × Index)
  | [], result => some result
  | config :: configs, (stale, x) => do
    let (old, next) ← retargetIn? augmenting targets x config
    retargetAll? augmenting targets configs
      ((old ++ targets.toList).foldl (·.insert ·) stale, next)

/-- Point an augmenting type at other targets in all configs that list it; also say which targets
it had and has there. -/
def retarget? (x : Index) (augmenting : TypeName) (targets : List TypeName) :
    Option (Std.ExtTreeSet TypeName × Index) :=
  retargetAll? augmenting (.ofList targets) (x.configsListing augmenting) (∅, x)

/-- Apply an operation to an index. -/
def change? (x : Index) : Change → Option (Change.Outcome × Index)
  | .replace config types applications => do
    let (count, y) ← x.replace? config types applications
    return (.loaded count, y)
  | .remove config => do
    let (applications, y) ← x.remove? config
    return (.removed applications, y)
  | .retarget augmenting targets => do
    let (touched, y) ← x.retarget? augmenting targets
    return (.touched touched, y)
  | .clear => some (.cleared, x.clear)

/-- Apply operations one after the other, collecting what they return. -/
def changeAll? (x : Index) : List Change → Option (List Change.Outcome × Index)
  | [] => some ([], x)
  | c :: cs => do
    let (outcome, y) ← x.change? c
    let (outcomes, z) ← y.changeAll? cs
    return (outcome :: outcomes, z)

/-! ### What configs hold -/

/-- How many configs contribute an application. -/
def contributors (x : Index) (a : Application) : Nat :=
  (x.byConfig.filter fun _ applications => applications.contains a).size

/-- How many configs list a type. -/
def listers (x : Index) (type : TypeName) : Nat :=
  (x.listed.filter fun _ types => types.contains type).size

/-- The counts and the view by target of an index say what its configs hold. -/
structure IsExact (x : Index) : Prop where
  /-- The configs that contribute are those that list. -/
  configs : x.byConfig.keys = x.listed.keys
  /-- An application is kept with the number of configs that contribute it, if there are any. -/
  holders : ∀ a n, x.holders.count? a = some n ↔ n = x.contributors a ∧ 0 < n
  /-- A type is kept with the number of configs that list it, if there are any. -/
  listings : ∀ type n, x.listings.count? type = some n ↔ n = x.listers type ∧ 0 < n
  /-- A target shows the applications to it that are kept. -/
  bucket : ∀ target a, a ∈ x.bucket target ↔ a.target = target ∧ x.holders.contains a = true
  /-- A target that shows nothing is not kept. -/
  nonempty : ∀ {target : TypeName} {bucket : Std.ExtTreeSet Application},
    x.byTarget[target]? = some bucket → bucket ≠ ∅

namespace Represents

variable {x : Index} {m : Contributions}

/-! ### Exactness -/

/-- How many configs are of some sort in their own part of the index is how many are so in the
map. -/
theorem size_filter_eq_countOf {V : Type} {kept : Std.ExtTreeMap String V} {f : Contribution → V}
    (same : ∀ config : String, kept[config]? = m[config]?.map f) (p : V → Bool) :
    (kept.filter fun _ v => p v).size = m.countOf (p ∘ f) := by
  have mapped : (kept.filter fun _ v => p v) =
      (m.filter fun _ c => (p ∘ f) c).map fun _ c => f c := by
    refine Std.ExtTreeMap.ext_getElem? fun {config} => ?_
    rw [Std.ExtTreeMap.getElem?_filter', Std.ExtTreeMap.getElem?_map,
      Std.ExtTreeMap.getElem?_filter', same]
    cases m[config]? with
    | none => rfl
    | some c => by_cases holds : p (f c) = true <;> simp [Option.filter, holds]
  rw [mapped, Std.ExtTreeMap.size_map]
  rfl

/-- An index that represents a map counts what its own configs hold. -/
theorem isExact (h : x.Represents m) : x.IsExact where
  configs := by
    have byConfig : x.byConfig = m.map fun _ c => c.applications :=
      Std.ExtTreeMap.ext_getElem? fun {config} => by
        rw [h.byConfig, Std.ExtTreeMap.getElem?_map]
    rw [byConfig, h.listed_eq, Std.ExtTreeMap.keys_map, Std.ExtTreeMap.keys_map]
  holders a n := by
    rw [contributors, size_filter_eq_countOf h.byConfig fun as => as.contains a]
    exact h.shows.counts.count?_eq_some_iff
  listings type n := by
    rw [listers, size_filter_eq_countOf h.listed fun types => types.contains type]
    exact h.listings.count?_eq_some_iff
  bucket target a := by
    rw [h.shows.mem_bucket, h.shows.counts.contains_iff]
  nonempty := h.shows.nonempty

/-! ### Every step finds what it lowers -/

theorem mem_listedBy (h : x.Represents m) {config : String} {type : TypeName}
    (listed : type ∈ x.listedBy config) : m.listings type ≠ 0 := by
  rw [listedBy, h.listed] at listed
  obtain ⟨c, kept, listed⟩ := Contribution.exists_of_mem_getD listed
  exact Contributions.listings_ne_zero.2 (Contributions.mem_types.2 ⟨config, c, kept, listed⟩)

theorem mem_ofConfig (h : x.Represents m) {config : String} {a : Application}
    (held : a ∈ x.ofConfig config) : m.holders a ≠ 0 := by
  rw [h.ofConfig, Contributions.ofConfig] at held
  obtain ⟨c, kept, held⟩ := Contribution.exists_of_mem_getD held
  exact Contributions.holders_ne_zero.2 (Contributions.mem_applications.2 ⟨config, c, kept, held⟩)

end Represents

theorem Shows.release?_eq_some {x : Index} {n : Application → Nat} (h : x.Shows n)
    {a : Application} (held : n a ≠ 0) : x.release? a = some (x.release a) := by
  rw [release?, h.counts.lower?_eq_some held]
  rfl

/-- Distinct applications that all have holders are let go one after the other. -/
theorem Shows.releaseAll?_eq_some {x : Index} {n : Application → Nat} (h : x.Shows n)
    {as : List Application} (distinct : as.Nodup) (held : ∀ a ∈ as, n a ≠ 0) :
    x.releaseAll? as = some (x.releaseAll as) :=
  foldlM_lower_eq_some (fun shows held => shows.release?_eq_some held)
    (fun shows a => shows.release a) distinct h held

namespace Represents

variable {x : Index} {m : Contributions}

theorem remove? (h : x.Represents m) (config : String) :
    x.remove? config = some (x.remove config) := by
  have unlisted : (x.listedBy config).toList.foldlM Tally.lower? x.listings =
      some ((x.listedBy config).toList.foldl Tally.lower x.listings) :=
    foldlM_lower_eq_some (fun counts held => counts.lower?_eq_some held)
      (fun counts type => counts.lower type) (nodup_toList_set _) h.listings
      fun type listed => h.mem_listedBy (Std.ExtTreeSet.mem_toList.1 listed)
  have released := Shows.releaseAll?_eq_some
    (h.shows.congr (y := { x with
      listings := (x.listedBy config).toList.foldl Tally.lower x.listings
      listed := x.listed.erase config
      byConfig := x.byConfig.erase config }) rfl rfl)
    (nodup_toList_set (x.ofConfig config))
    fun a held => h.mem_ofConfig (Std.ExtTreeSet.mem_toList.1 held)
  rw [Index.remove?, unlisted]
  simp only [Option.bind_eq_bind, Option.bind_some, released]
  rfl

theorem replace? (h : x.Represents m) (config : String) (types : List TypeName)
    (applications : List Application) :
    x.replace? config types applications = some (x.replace config types applications) := by
  rw [Index.replace?, h.remove? config]
  rfl

theorem retargetIn? (h : x.Represents m) (augmenting : TypeName)
    (targets : Std.ExtTreeSet TypeName) (config : String) :
    Index.retargetIn? augmenting targets x config =
      some (Index.retargetIn augmenting targets x config) := by
  rw [Index.retargetIn?, Index.retargetIn]
  cases kept : x.byConfig[config]? with
  | none => rfl
  | some applications =>
      have stored : applications = x.ofConfig config := by
        rw [Index.ofConfig, kept, Option.getD_some]
      have distinct : (applications.toList.filter (·.augmenting == augmenting)).Nodup :=
        (nodup_toList_set applications).filter _
      have held : ∀ a ∈ applications.toList.filter (·.augmenting == augmenting),
          m.holders a ≠ 0 := by
        intro a member
        have inConfig := Std.ExtTreeSet.mem_toList.1 (List.mem_filter.1 member).1
        rw [stored] at inConfig
        exact h.mem_ofConfig inConfig
      have released (byConfig : Std.ExtTreeMap String (Std.ExtTreeSet Application)) :=
        Shows.releaseAll?_eq_some (h.shows.congr (y := { x with byConfig }) rfl rfl) distinct held
      simp only [released]
      rfl

/-- Pointing a listed type elsewhere in several configs, one after the other. -/
theorem retargetAll? {augmenting : TypeName} (targets : List TypeName) {configs : List String}
    (distinct : configs.Nodup) (h : x.Represents m)
    (listed : ∀ config ∈ configs, ∃ c, m[config]? = some c ∧ augmenting ∈ c.types)
    (stale : Std.ExtTreeSet TypeName) :
    Index.retargetAll? augmenting (.ofList targets) configs (stale, x) =
      some (Index.retargetAll augmenting (.ofList targets) configs (stale, x)) := by
  induction configs generalizing x m stale with
  | nil => rfl
  | cons config configs ih =>
      obtain ⟨fresh, distinct⟩ := List.nodup_cons.1 distinct
      obtain ⟨c, kept, augments⟩ := listed config List.mem_cons_self
      have later : ∀ k ∈ configs, ∃ d,
          (m.insert config (c.retarget augmenting targets))[k]? = some d ∧
            augmenting ∈ d.types := by
        intro k member
        have other : config ≠ k := by
          rintro rfl
          exact fresh member
        rw [Std.ExtTreeMap.getElem?_insert, if_neg (mt Std.LawfulEqCmp.eq_of_compare other)]
        exact listed k (List.mem_cons_of_mem _ member)
      rw [Index.retargetAll?, h.retargetIn?]
      exact ih distinct (h.retargetIn kept augments targets).1 later _

theorem retarget? (h : x.Represents m) (augmenting : TypeName) (targets : List TypeName) :
    x.retarget? augmenting targets = some (x.retarget augmenting targets) :=
  h.retargetAll? targets (x.nodup_configsListing augmenting)
    (fun _ listed => h.mem_configsListing.1 listed) ∅

/-- No operation lets go of what nobody holds. -/
theorem change? (h : x.Represents m) (c : Change) : x.change? c = some (x.change c) := by
  cases c with
  | replace config types applications =>
      rw [Index.change?, h.replace? config types applications]
      rfl
  | remove config =>
      rw [Index.change?, h.remove? config]
      rfl
  | retarget augmenting targets =>
      rw [Index.change?, h.retarget? augmenting targets]
      rfl
  | clear => rfl

theorem changeAll? (h : x.Represents m) (cs : List Change) :
    x.changeAll? cs = some (x.changeAll cs) := by
  induction cs generalizing x m with
  | nil => rfl
  | cons c cs ih =>
      rw [Index.changeAll?, h.change? c]
      show ((x.change c).2.changeAll? cs >>= fun _ => _) = _
      rw [ih (h.change c).2]
      rfl

end Represents

/-- After any operations on an empty index the counts and the view by target say what the configs
hold, and on the way no count is lowered that is not kept or is zero. -/
theorem changeAll_exact (cs : List Change) :
    (({} : Index).changeAll cs).2.IsExact ∧
      ({} : Index).changeAll? cs = some (({} : Index).changeAll cs) :=
  ⟨(represents_empty.changeAll cs).2.isExact, represents_empty.changeAll? cs⟩

end Index

end MixinIndex
