import MixinIndex.TypeName

/-!
# Applications of mixins

## Main definitions

* `Application`: one augmenting type applied to one target type; ordered by target, then
  augmenting type
-/

namespace MixinIndex

open Std (TransOrd TransCmp LawfulEqOrd LawfulEqCmp)

/-- One augmenting type applied to one target type. -/
structure Application where
  target : TypeName
  augmenting : TypeName
  deriving DecidableEq

namespace Application

/-- Applications are ordered by target, then augmenting type. -/
def order : Application → Application → Ordering :=
  compareLex (compareOn (·.target)) (compareOn (·.augmenting))

instance : Ord Application := ⟨order⟩

instance : TransOrd Application := inferInstanceAs (TransCmp (compareLex _ _))

instance : LawfulEqOrd Application where
  eq_of_compare {a b} h := by
    have : order a b = .eq := h
    simp only [order, compareLex_eq_eq, compareOn, LawfulEqCmp.compare_eq_iff_eq] at this
    cases a
    cases b
    simp_all

/-- The applications of an augmenting type to a list of targets. -/
def toTargets (augmenting : TypeName) (targets : List TypeName) : List Application :=
  targets.map (⟨·, augmenting⟩)

@[simp] theorem mem_toTargets {augmenting : TypeName} {targets : List TypeName}
    {a : Application} :
    a ∈ toTargets augmenting targets ↔ a.augmenting = augmenting ∧ a.target ∈ targets := by
  cases a
  simp [toTargets]
  grind

end Application

end MixinIndex
