import Std.Data.ExtTreeMap

/-!
# Tallies

How many holders each key has.  A key without holders is not kept, so the keys of a tally are
those that somebody holds.

## Main definitions

* `Tally`: numbers of holders by key
* `Tally.raise`: one more holder
* `Tally.lower`: one holder less
* `Tally.isLast`: whether the key has no more than one holder
-/

namespace MixinIndex

open Std (TransOrd LawfulEqOrd)

/-- Numbers of holders by key. -/
structure Tally (K : Type) [Ord K] where
  counts : Std.ExtTreeMap K Nat := ∅

namespace Tally

variable {K : Type} [Ord K] [TransOrd K]

/-- The number of holders of a key, if it is kept. -/
def count? (t : Tally K) (key : K) : Option Nat := t.counts[key]?

/-- Whether a key is kept. -/
def contains (t : Tally K) (key : K) : Bool := t.counts.contains key

/-- One more holder of a key. -/
def raise (t : Tally K) (key : K) : Tally K :=
  ⟨t.counts.insert key ((t.count? key).getD 0 + 1)⟩

/-- One holder of a key less; with the last one the key goes. -/
def lower (t : Tally K) (key : K) : Tally K :=
  match t.count? key with
  | none => t
  | some n => if n - 1 = 0 then ⟨t.counts.erase key⟩ else ⟨t.counts.insert key (n - 1)⟩

/-- Whether a key is kept and goes with the next holder that it loses. -/
def isLast (t : Tally K) (key : K) : Bool := (t.count? key).any (· - 1 == 0)

/-- The number of keys. -/
def size (t : Tally K) : Nat := t.counts.size

/-- The keys in order. -/
def keys (t : Tally K) : List K := t.counts.keys

theorem count?_raise [LawfulEqOrd K] [DecidableEq K] (t : Tally K) (key k : K) :
    (t.raise key).count? k =
      if key = k then some ((t.count? key).getD 0 + 1) else t.count? k := by
  simp [count?, raise, Std.ExtTreeMap.getElem?_insert]

theorem count?_lower [LawfulEqOrd K] [DecidableEq K] (t : Tally K) (key k : K) :
    (t.lower key).count? k =
      if key = k then (t.count? key).bind (fun n => if n - 1 = 0 then none else some (n - 1))
      else t.count? k := by
  cases h : t.count? key with
  | none =>
    by_cases hk : key = k
    · subst hk
      simp [lower, h]
    · simp [lower, h, hk]
  | some n =>
    rw [lower, h]
    by_cases hn : n - 1 = 0
    · simp [hn, count?, Std.ExtTreeMap.getElem?_erase]
    · simp [hn, count?, Std.ExtTreeMap.getElem?_insert]

theorem contains_eq_isSome (t : Tally K) (key : K) :
    t.contains key = (t.count? key).isSome := by
  simp [contains, count?]

end Tally

end MixinIndex
