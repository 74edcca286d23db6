import Mathlib.Tactic.ByContra
import MixinIndex.Contribution.Index

/-!
# Exact counting

A tally is exact for a number of holders per key if it keeps every key that has holders with
their number, and no other key.  Raising and lowering keep tallies exact, and so does the view by
target that an index maintains next to its tally of holders.

## Main definitions

* `Tally.Counts`: a tally is exact for a number of holders per key
* `Index.Shows`: the tally and the view by target of an index are both exact

## Main statements

* `Tally.Counts.unique`: there is one exact tally
* `Index.Shows.acquireAll`, `Index.Shows.releaseAll`: taking hold and letting go stay exact
-/

namespace MixinIndex

open Std (TransOrd LawfulEqOrd)

namespace Tally

variable {K : Type} [Ord K] [TransOrd K] [LawfulEqOrd K] [DecidableEq K]

/-- A tally is exact for `n`: it keeps the keys with holders, each with the number of them. -/
def Counts (t : Tally K) (n : K → Nat) : Prop :=
  ∀ key, t.count? key = if n key = 0 then none else some (n key)

omit [LawfulEqOrd K] [DecidableEq K] in
theorem counts_empty : ({} : Tally K).Counts fun _ => 0 := by
  intro key
  simp [count?]

namespace Counts

variable {t u : Tally K} {n : K → Nat}

omit [DecidableEq K] in
/-- The tally that is exact for given numbers is determined by them. -/
theorem unique (ht : t.Counts n) (hu : u.Counts n) : t = u := by
  have same : t.counts = u.counts :=
    Std.ExtTreeMap.ext_getElem? fun {key} => (ht key).trans (hu key).symm
  cases t
  cases u
  exact congrArg Tally.mk same

omit [LawfulEqOrd K] [DecidableEq K] in
theorem contains_iff (ht : t.Counts n) (key : K) : t.contains key = true ↔ n key ≠ 0 := by
  rw [contains_eq_isSome, ht key]
  by_cases zero : n key = 0 <;> simp [zero]

omit [LawfulEqOrd K] [DecidableEq K] in
/-- The key that goes with the next holder is the one with a single holder. -/
theorem isLast_iff (ht : t.Counts n) (key : K) : t.isLast key = true ↔ n key = 1 := by
  rw [isLast, ht key]
  by_cases zero : n key = 0
  · simp [zero]
  · simp only [zero, ↓reduceIte, Option.any_some, beq_iff_eq]
    omega

theorem raise (ht : t.Counts n) (key : K) :
    (t.raise key).Counts fun k => n k + if key = k then 1 else 0 := by
  intro k
  rw [count?_raise, ht key, ht k]
  by_cases same : key = k
  · subst same
    by_cases zero : n key = 0 <;> simp [zero]
  · simp [same]

/-- Lowering is exact also for a key without holders, which it leaves alone. -/
theorem lower (ht : t.Counts n) (key : K) :
    (t.lower key).Counts fun k => n k - if key = k then 1 else 0 := by
  intro k
  rw [count?_lower, ht key, ht k]
  by_cases same : key = k
  · subst same
    by_cases zero : n key = 0 <;> simp [zero]
  · simp [same]

theorem foldl_raise (keys : List K) (ht : t.Counts n) :
    (keys.foldl Tally.raise t).Counts fun k => n k + keys.count k := by
  induction keys generalizing t n with
  | nil => simpa using ht
  | cons key keys ih =>
      have regroup : (fun k => n k + (if key = k then 1 else 0) + keys.count k) =
          fun k => n k + (key :: keys).count k := by
        funext k
        rw [List.count_cons]
        simp only [beq_iff_eq]
        omega
      rw [← regroup]
      exact ih (ht.raise key)

theorem foldl_lower (keys : List K) (ht : t.Counts n) :
    (keys.foldl Tally.lower t).Counts fun k => n k - keys.count k := by
  induction keys generalizing t n with
  | nil => simpa using ht
  | cons key keys ih =>
      have regroup : (fun k => n k - (if key = k then 1 else 0) - keys.count k) =
          fun k => n k - (key :: keys).count k := by
        funext k
        rw [List.count_cons]
        simp only [beq_iff_eq]
        omega
      rw [← regroup]
      exact ih (ht.lower key)

end Counts

end Tally

/-! ### The view by target -/

namespace Index

/-- The tally of holders and the view by target are exact for `n`: a target shows the applications
to it that somebody holds, and a target without any is not kept. -/
structure Shows (x : Index) (n : Application → Nat) : Prop where
  counts : x.holders.Counts n
  mem_bucket : ∀ target a, a ∈ x.bucket target ↔ a.target = target ∧ n a ≠ 0
  nonempty : ∀ {target : TypeName} {bucket : Std.ExtTreeSet Application},
    x.byTarget[target]? = some bucket → bucket ≠ ∅

theorem shows_empty : ({} : Index).Shows fun _ => 0 where
  counts := Tally.counts_empty
  mem_bucket := by simp [bucket]
  nonempty := by simp

theorem bucket_insert (x : Index) (target t : TypeName) (b : Std.ExtTreeSet Application) :
    ((x.byTarget.insert target b)[t]?).getD ∅ = if target = t then b else x.bucket t := by
  rw [Std.ExtTreeMap.getElem?_insert, Index.bucket]
  by_cases same : target = t <;> simp [same]

/-- Hiding an application takes it out of its bucket and touches nothing else. -/
theorem mem_hide (byTarget : Std.ExtTreeMap TypeName (Std.ExtTreeSet Application))
    (a b : Application) (t : TypeName) :
    b ∈ ((hide byTarget a)[t]?).getD ∅ ↔
      b ∈ (byTarget[t]?).getD ∅ ∧ ¬ (a.target = t ∧ a = b) := by
  unfold hide
  cases kept : byTarget[a.target]? with
  | none =>
      refine ⟨fun h => ⟨h, ?_⟩, fun h => h.1⟩
      rintro ⟨rfl, -⟩
      simp [kept] at h
  | some bucket =>
      by_cases same : a.target = t
      · subst same
        by_cases empty : (bucket.erase a).isEmpty = true
        · have gone : b ∉ bucket.erase a := by
            rw [Std.ExtTreeSet.isEmpty_iff.1 empty]
            exact Std.ExtTreeSet.not_mem_empty
          rw [Std.ExtTreeSet.mem_erase] at gone
          simp only [empty, ↓reduceIte, Std.ExtTreeMap.getElem?_erase_self, kept]
          simp only [Option.getD_none, Std.ExtTreeSet.not_mem_empty, Option.getD_some, true_and,
            false_iff]
          exact fun ⟨kept, different⟩ => gone ⟨by simpa using different, kept⟩
        · simp only [empty, Bool.false_eq_true, ↓reduceIte, kept, Option.getD_some,
            Std.ExtTreeMap.getElem?_insert_self, Std.ExtTreeSet.mem_erase]
          simp [and_comm]
      · simp only [same, false_and, not_false_eq_true, and_true]
        split <;> simp [Std.ExtTreeMap.getElem?_erase, Std.ExtTreeMap.getElem?_insert, same]

theorem nonempty_hide {byTarget : Std.ExtTreeMap TypeName (Std.ExtTreeSet Application)}
    (nonempty : ∀ {t : TypeName} {b : Std.ExtTreeSet Application},
      byTarget[t]? = some b → b ≠ ∅) (a : Application) {t : TypeName}
    {b : Std.ExtTreeSet Application} (h : (hide byTarget a)[t]? = some b) : b ≠ ∅ := by
  unfold hide at h
  cases kept : byTarget[a.target]? with
  | none => exact nonempty (by simpa [kept] using h)
  | some bucket =>
      simp only [kept] at h
      by_cases same : a.target = t
      · subst same
        by_cases empty : (bucket.erase a).isEmpty = true
        · simp [empty] at h
        · simp only [empty, Bool.false_eq_true, ↓reduceIte,
            Std.ExtTreeMap.getElem?_insert_self, Option.some.injEq] at h
          subst h
          exact fun isEmpty => empty (Std.ExtTreeSet.isEmpty_iff.2 isEmpty)
      · refine nonempty (t := t) ?_
        split at h <;>
          simpa [Std.ExtTreeMap.getElem?_erase, Std.ExtTreeMap.getElem?_insert, same] using h

namespace Shows

variable {x : Index} {n : Application → Nat}

theorem acquire (h : x.Shows n) (a : Application) :
    (x.acquire a).Shows fun b => n b + if a = b then 1 else 0 := by
  have known : x.holders.contains a = true ↔ n a ≠ 0 := h.counts.contains_iff a
  by_cases held : x.holders.contains a = true
  · refine ⟨h.counts.raise a, fun t b => ?_, fun {t b} kept => ?_⟩
    · have bucketSame : (x.acquire a).bucket t = x.bucket t := by
        simp [Index.acquire, Index.bucket, held]
      rw [bucketSame, h.mem_bucket t b]
      by_cases same : a = b
      · subst same
        simp [known.1 held]
      · simp [same]
    · exact h.nonempty (by simpa [Index.acquire, held] using kept)
  · have zero : n a = 0 := by
      by_contra positive
      exact held (known.2 positive)
    refine ⟨h.counts.raise a, fun t b => ?_, fun {t b} kept => ?_⟩
    · have bucketNew : (x.acquire a).bucket t =
          if a.target = t then (x.bucket a.target).insert a else x.bucket t := by
        rw [← bucket_insert]
        simp [Index.acquire, Index.bucket, held]
      rw [bucketNew]
      by_cases same : a = b
      · subst same
        by_cases target : a.target = t
        · simp [target]
        · simp [target, h.mem_bucket]
      · by_cases target : a.target = t
        · subst target
          simp [same, h.mem_bucket]
        · simp [target, same, h.mem_bucket]
    · simp only [Index.acquire, held, Bool.false_eq_true, ↓reduceIte,
        Std.ExtTreeMap.getElem?_insert] at kept
      split at kept
      · cases kept
        exact Std.ExtTreeSet.insert_ne_empty
      · exact h.nonempty kept

theorem release (h : x.Shows n) (a : Application) :
    (x.release a).Shows fun b => n b - if a = b then 1 else 0 := by
  have last : x.holders.isLast a = true ↔ n a = 1 := h.counts.isLast_iff a
  by_cases going : x.holders.isLast a = true
  · refine ⟨h.counts.lower a, fun t b => ?_, fun {t b} kept => ?_⟩
    · have bucketLess : (x.release a).bucket t = ((hide x.byTarget a)[t]?).getD ∅ := by
        simp [Index.release, Index.bucket, going]
      rw [bucketLess, mem_hide]
      change b ∈ x.bucket t ∧ _ ↔ _
      rw [h.mem_bucket t b]
      by_cases same : a = b
      · subst same
        simp [last.1 going]
      · simp [same]
    · have hidden : (hide x.byTarget a)[t]? = some b := by
        simpa [Index.release, going] using kept
      exact nonempty_hide h.nonempty a hidden
  · refine ⟨h.counts.lower a, fun t b => ?_, fun {t b} kept => ?_⟩
    · have bucketSame : (x.release a).bucket t = x.bucket t := by
        simp [Index.release, Index.bucket, going]
      rw [bucketSame, h.mem_bucket t b]
      by_cases same : a = b
      · subst same
        have several : n a ≠ 1 := fun one => going (last.2 one)
        simp only [↓reduceIte]
        constructor
        · rintro ⟨target, positive⟩
          exact ⟨target, by omega⟩
        · rintro ⟨target, positive⟩
          exact ⟨target, by omega⟩
      · simp [same]
    · exact h.nonempty (by simpa [Index.release, going] using kept)

theorem acquireAll (as : List Application) (h : x.Shows n) :
    (x.acquireAll as).Shows fun b => n b + as.count b := by
  induction as generalizing x n with
  | nil => exact h
  | cons a as ih =>
      have regroup : (fun b => n b + (if a = b then 1 else 0) + as.count b) =
          fun b => n b + (a :: as).count b := by
        funext b
        rw [List.count_cons]
        simp only [beq_iff_eq]
        omega
      rw [← regroup]
      exact ih (h.acquire a)

theorem releaseAll (as : List Application) (h : x.Shows n) :
    (x.releaseAll as).Shows fun b => n b - as.count b := by
  induction as generalizing x n with
  | nil => exact h
  | cons a as ih =>
      have regroup : (fun b => n b - (if a = b then 1 else 0) - as.count b) =
          fun b => n b - (a :: as).count b := by
        funext b
        rw [List.count_cons]
        simp only [beq_iff_eq]
        omega
      rw [← regroup]
      exact ih (h.release a)

end Shows

end Index

end MixinIndex
