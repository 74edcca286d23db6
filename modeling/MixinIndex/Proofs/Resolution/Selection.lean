import Mathlib.Logic.Basic
import Mathlib.Tactic.SplitIfs
import MixinIndex.Resolution

/-!
# Selection

What the selection among candidates depends on.  Of a specifier it is the owner, the name, the
quantifier and the candidates that its descriptor admits; the text of a specifier only stands in the
reports.

## Main definitions

* `Declaration.Admits`: a candidate has the name and the parameters that a specifier asks for
* `Specifier.SelectsAs`: specifiers that agree in all that the selection depends on
* `Resolution.Agrees`: the same members at the same places, and problems of the same kinds

## Main statements

* `Declaration.resolve_agrees`: specifiers that agree select the same members
* `Declaration.exists_first_eligible`: where a candidate is admitted, there is a first one
* `Declaration.resolve_of_eligible_eq_cons`: a descriptor without a quantifier selects the first
  candidate
-/

namespace MixinIndex

/-! ### Passes -/

namespace Quantifier.Cursor

/-- Behind the last position no member is selected any more. -/
theorem selectAll_of_last_lt {α : Type} {c : Cursor} {last : Nat}
    (isLast : c.quantifier.last = some last) (past : last < c.position) (members : List α) :
    (c.selectAll members).1 = [] := by
  induction members generalizing c with
  | nil => rfl
  | cons member members ih =>
      have refused : c.quantifier.accepts c.position = false := by
        simp [accepts, isLast, past]
      have advanced : last < c.step.2.position := by
        simp only [step]
        split_ifs <;> omega
      show (if c.quantifier.accepts c.position then _ else _) = _
      rw [refused]
      exact ih isLast advanced

/-- The subject of a report does not matter to its kind. -/
theorem report_kind (c : Cursor) (subject subject' : String) :
    (c.report subject).map (·.kind) = (c.report subject').map (·.kind) := by
  simp only [report]
  split_ifs <;> rfl

end Quantifier.Cursor

/-- Without a token the first member is selected, and there is nothing to report. -/
theorem Quantifier.selectAll_implicit {α : Type} (member : α) (members : List α) :
    (implicit.cursor.selectAll (member :: members)).1 = [member] ∧
      ∀ subject, (implicit.cursor.selectAll (member :: members)).2.report subject = none := by
  have selected : (implicit.cursor.selectAll (member :: members)).1 = [member] := by
    have isLast : implicit.cursor.step.2.quantifier.last = some 1 := rfl
    show member :: (implicit.cursor.step.2.selectAll members).1 = [member]
    rw [Cursor.selectAll_of_last_lt isLast (by decide)]
  refine ⟨selected, fun subject => ?_⟩
  have found : (implicit.cursor.selectAll (member :: members)).2.found = 1 := by
    rw [Cursor.selectAll_found, selected]
    rfl
  have demanded : (implicit.cursor.selectAll (member :: members)).2.quantifier = implicit :=
    Cursor.selectAll_quantifier _ _
  rw [Cursor.report, demanded, found]
  rfl

/-! ### What the selection depends on -/

/-- Specifiers with one owner, name and quantifier, both or none of them with a descriptor, whose
descriptors admit the same candidates. -/
structure Specifier.SelectsAs (a b : Specifier) : Prop where
  owner : a.owner = b.owner
  name : a.name = b.name
  quantifier : a.quantifier = b.quantifier
  described : a.descriptor.isNone = b.descriptor.isNone
  descriptor : ∀ (target : Declaration) (candidate : Member),
    target.descriptorMatches a candidate = target.descriptorMatches b candidate

/-- Resolutions with the same members at the same places, and problems of the same kinds. -/
structure Resolution.Agrees (r r' : Resolution) : Prop where
  selected : r.selected = r'.selected
  kinds : r.diagnostics.map (·.kind) = r'.diagnostics.map (·.kind)

namespace Declaration

theorem appliesTo_of_selectsAs {a b : Specifier} (h : a.SelectsAs b) (target : TypeName) :
    a.appliesTo target = b.appliesTo target := by
  rw [Specifier.appliesTo, Specifier.appliesTo, h.owner]

theorem eligible_of_selectsAs {a b : Specifier} (h : a.SelectsAs b) (target : Declaration)
    (candidates : List Member) : target.eligible a candidates = target.eligible b candidates := by
  have names (candidate : Member) : nameMatches a candidate = nameMatches b candidate := by
    simp only [nameMatches, h.name]
  simp only [eligible, names, h.descriptor]

theorem isBareName_of_selectsAs {a b : Specifier} (h : a.SelectsAs b) :
    isBareName a = isBareName b := by
  simp only [isBareName, h.name, h.quantifier, h.described]

/-- Specifiers that agree select the same members, and meet problems of the same kinds. -/
theorem resolve_agrees {a b : Specifier} (h : a.SelectsAs b) (target : Declaration)
    (candidates : List Member) :
    (target.resolve a candidates).Agrees (target.resolve b candidates) := by
  simp only [resolve, appliesTo_of_selectsAs h, eligible_of_selectsAs h, isBareName_of_selectsAs h,
    h.quantifier]
  split_ifs with other ambiguous
  · exact ⟨rfl, rfl⟩
  · exact ⟨rfl, rfl⟩
  · refine ⟨rfl, ?_⟩
    -- The reports name the specifiers, so they agree in their kinds only.
    generalize (b.quantifier.cursor.selectAll (target.eligible b candidates)).2 = cursor
    have kinds := cursor.report_kind a.raw b.raw
    cases left : cursor.report a.raw with
    | none =>
        rw [left, Option.map_none, eq_comm, Option.map_eq_none_iff] at kinds
        rw [kinds]
    | some report =>
        rw [left, Option.map_some, eq_comm, Option.map_eq_some_iff] at kinds
        obtain ⟨other, right, kind⟩ := kinds
        simp only [right, kind]
        split_ifs
        · rfl
        · exact congrArg (fun k => [k]) kind.symm

/-! ### The first candidate -/

/-- A candidate has the name and the parameters that a specifier asks for. -/
def Admits (target : Declaration) (spec : Specifier) (candidate : Member) : Prop :=
  nameMatches spec candidate = true ∧ target.descriptorMatches spec candidate = true

theorem admits_iff {target : Declaration} {spec : Specifier} {candidate : Member} :
    (nameMatches spec candidate && target.descriptorMatches spec candidate) = true ↔
      target.Admits spec candidate :=
  Bool.and_eq_true_iff

/-- Where a candidate is admitted, there is a first one, and it is the first of the eligible. -/
theorem exists_first_eligible {target : Declaration} {spec : Specifier} {candidates : List Member}
    {candidate : Member} (mem : candidate ∈ candidates) (admitted : target.Admits spec candidate) :
    ∃ first place others, target.eligible spec candidates = (first, place) :: others ∧
      candidates[place]? = some first ∧ target.Admits spec first ∧
      ∀ before < place, ∀ other, candidates[before]? = some other → ¬ target.Admits spec other := by
  obtain ⟨place, found⟩ := List.getElem?_of_mem mem
  have eligible : (candidate, place) ∈ target.eligible spec candidates :=
    List.mem_filter.2 ⟨List.mem_zipIdx_iff_getElem?.2 found, admits_iff.2 admitted⟩
  obtain ⟨first, others, split⟩ := List.exists_cons_of_ne_nil (List.ne_nil_of_mem eligible)
  have isFirst : candidates.zipIdx.find?
      (fun c => nameMatches spec c.1 && target.descriptorMatches spec c.1) = some first := by
    rw [← List.head?_filter]
    exact congrArg List.head? split
  obtain ⟨admitsFirst, index, inside, same, earlier⟩ := List.find?_eq_some_iff_getElem.1 isFirst
  rw [List.length_zipIdx] at inside
  obtain rfl : first = (candidates[index], index) := by
    rw [← same, List.getElem_zipIdx, Nat.zero_add]
  refine ⟨candidates[index], index, others, split, List.getElem?_eq_getElem inside,
    admits_iff.1 admitsFirst, ?_⟩
  intro before isBefore other isOther
  obtain ⟨within, rfl⟩ := List.getElem?_eq_some_iff.1 isOther
  have refused := earlier before isBefore
  rw [List.getElem_zipIdx, Bool.not_eq_true', ← Bool.not_eq_true] at refused
  exact mt admits_iff.2 refused

/-- With a descriptor and without a quantifier, the first eligible candidate is selected. -/
theorem resolve_of_eligible_eq_cons {target : Declaration} {spec : Specifier}
    {candidates : List Member} {first : Member × Nat} {others : List (Member × Nat)}
    (applies : spec.appliesTo target.name = true) (implicit : spec.quantifier = .implicit)
    (described : spec.descriptor.isNone = false)
    (eligible : target.eligible spec candidates = first :: others) :
    target.resolve spec candidates = { selected := [first] } := by
  have notBare : isBareName spec = false := by simp [isBareName, described]
  obtain ⟨selected, quiet⟩ := Quantifier.selectAll_implicit first others
  simp [resolve, applies, notBare, implicit, eligible, selected, quiet]

end Declaration

end MixinIndex
