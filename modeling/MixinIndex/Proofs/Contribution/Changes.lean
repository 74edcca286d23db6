import MixinIndex.Proofs.Contribution.Refinement

/-!
# Sequences of changes

An index and a plain map of contributions go through the same changes.  Whatever the changes are,
both return the same on the way and answer the same questions in the end.

## Main definitions

* `Change`: an operation with its arguments
* `Change.Outcome`: what an operation returns
* `Index.change`, `Contributions.change`: an operation on either side
* `Index.changeAll`, `Contributions.changeAll`: operations one after the other

## Main statements

* `Index.Represents.change`: one operation
* `Index.changeAll_refines`: all sequences of operations
-/

namespace MixinIndex

/-- An operation on contributions.  Its arguments need not fit together or fit what is there. -/
inductive Change where
  | replace (config : String) (types : List TypeName) (applications : List Application)
  | remove (config : String)
  | retarget (augmenting : TypeName) (targets : List TypeName)
  | clear

/-- What an operation returns: how many applications are new, those that were dropped, the targets
that were touched, or nothing. -/
inductive Change.Outcome where
  | loaded (count : Nat)
  | removed (applications : Std.ExtTreeSet Application)
  | touched (targets : Std.ExtTreeSet TypeName)
  | cleared

namespace Index

/-- Apply an operation to an index. -/
def change (x : Index) : Change → Change.Outcome × Index
  | .replace config types applications =>
    let (count, y) := x.replace config types applications
    (.loaded count, y)
  | .remove config =>
    let (applications, y) := x.remove config
    (.removed applications, y)
  | .retarget augmenting targets =>
    let (touched, y) := x.retarget augmenting targets
    (.touched touched, y)
  | .clear => (.cleared, x.clear)

/-- Apply operations one after the other, collecting what they return. -/
def changeAll (x : Index) : List Change → List Change.Outcome × Index
  | [] => ([], x)
  | c :: cs =>
    let (outcome, y) := x.change c
    let (outcomes, z) := y.changeAll cs
    (outcome :: outcomes, z)

end Index

namespace Contributions

/-- Apply an operation to a map of contributions. -/
def change (m : Contributions) : Change → Change.Outcome × Contributions
  | .replace config types applications =>
    (.loaded (Contribution.ofLists types applications).applications.size,
      m.replace config types applications)
  | .remove config => (.removed (m.ofConfig config), m.remove config)
  | .retarget augmenting targets =>
    (.touched (m.touched augmenting targets), m.retarget augmenting targets)
  | .clear => (.cleared, ∅)

/-- Apply operations one after the other, collecting what they return. -/
def changeAll (m : Contributions) : List Change → List Change.Outcome × Contributions
  | [] => ([], m)
  | c :: cs =>
    let (outcome, n) := m.change c
    let (outcomes, o) := n.changeAll cs
    (outcome :: outcomes, o)

end Contributions

namespace Index

namespace Represents

variable {x : Index} {m : Contributions}

/-- One operation returns the same on both sides, and the index still represents the map. -/
theorem change (h : x.Represents m) (c : Change) :
    (x.change c).1 = (m.change c).1 ∧ (x.change c).2.Represents (m.change c).2 := by
  cases c with
  | replace config types applications =>
      exact ⟨rfl, h.replace config types applications⟩
  | remove config =>
      exact ⟨congrArg Change.Outcome.removed (h.ofConfig config), h.remove config⟩
  | retarget augmenting targets =>
      obtain ⟨moved, touched⟩ := h.retarget augmenting targets
      exact ⟨congrArg Change.Outcome.touched touched, moved⟩
  | clear => exact ⟨rfl, represents_empty⟩

theorem changeAll (h : x.Represents m) (cs : List Change) :
    (x.changeAll cs).1 = (m.changeAll cs).1 ∧
      (x.changeAll cs).2.Represents (m.changeAll cs).2 := by
  induction cs generalizing x m with
  | nil => exact ⟨rfl, h⟩
  | cons c cs ih =>
      obtain ⟨outcome, represents⟩ := h.change c
      obtain ⟨outcomes, final⟩ := ih represents
      exact ⟨congrArg₂ List.cons outcome outcomes, final⟩

/-- Removing a config hides the applications that it alone holds. -/
theorem hidden_iff (h : x.Represents m) (config : String) (a : Application) :
    (a ∈ x.mixinsFor a.target ∧ a ∉ (x.remove config).2.mixinsFor a.target) ↔
      a ∈ x.configEntries config ∧ ∀ other, other ≠ config → a ∉ x.configEntries other := by
  have shown {y : Index} {n : Contributions} (h : y.Represents n) :
      a ∈ y.mixinsFor a.target ↔
        ∃ (k : String) (c : Contribution), n[k]? = some c ∧ a ∈ c.applications := by
    rw [mixinsFor, Std.ExtTreeSet.mem_toList, h.bucket_eq, Contributions.mem_toTarget,
      Contributions.mem_applications]
    exact and_iff_right rfl
  have entry (k : String) :
      a ∈ x.configEntries k ↔ ∃ c : Contribution, m[k]? = some c ∧ a ∈ c.applications := by
    rw [configEntries, Std.ExtTreeSet.mem_toList, h.ofConfig, Contributions.ofConfig]
    cases kept : m[k]? with
    | none => simp
    | some c => simp
  have rest (k : String) : (m.remove config)[k]? = if config = k then none else m[k]? := by
    rw [Contributions.remove, Std.ExtTreeMap.getElem?_erase]
    simp only [Std.LawfulEqCmp.compare_eq_iff_eq]
  rw [shown h, shown (h.remove config), entry]
  constructor
  · rintro ⟨⟨k, c, kept, held⟩, gone⟩
    have here : config = k := by
      by_contra other
      refine gone ⟨k, c, ?_, held⟩
      rw [rest, if_neg other]
      exact kept
    subst here
    refine ⟨⟨c, kept, held⟩, fun other different heldThere => ?_⟩
    obtain ⟨d, keptThere, held⟩ := (entry other).1 heldThere
    refine gone ⟨other, d, ?_, held⟩
    rw [rest, if_neg (Ne.symm different)]
    exact keptThere
  · rintro ⟨⟨c, kept, held⟩, alone⟩
    refine ⟨⟨config, c, kept, held⟩, ?_⟩
    rintro ⟨k, d, keptThere, heldThere⟩
    rw [rest] at keptThere
    by_cases here : config = k
    · rw [if_pos here] at keptThere
      cases keptThere
    · rw [if_neg here] at keptThere
      exact alone k (Ne.symm here) ((entry k).2 ⟨d, keptThere, heldThere⟩)

end Represents

/-- After any operations on an empty index, all outcomes and all answers are those of the plain
map, and removing a config hides exactly the applications that no other config holds. -/
theorem changeAll_refines (cs : List Change) :
    (({} : Index).changeAll cs).1 = ((∅ : Contributions).changeAll cs).1 ∧
      (({} : Index).changeAll cs).2.view = ((∅ : Contributions).changeAll cs).2.view ∧
      ∀ (config : String) (a : Application),
        let x := (({} : Index).changeAll cs).2
        (a ∈ x.mixinsFor a.target ∧ a ∉ (x.remove config).2.mixinsFor a.target) ↔
          a ∈ x.configEntries config ∧
            ∀ other, other ≠ config → a ∉ x.configEntries other := by
  obtain ⟨outcomes, represents⟩ := represents_empty.changeAll cs
  exact ⟨outcomes, represents.view, fun config a => represents.hidden_iff config a⟩

end Index

end MixinIndex
