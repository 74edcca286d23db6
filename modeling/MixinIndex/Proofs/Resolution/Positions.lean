import Mathlib.Tactic.SplitIfs
import MixinIndex.Proofs.Signature.Separators
import MixinIndex.Resolution

/-!
# Positions

What a specifier selects, said without a pass over the candidates: of those that match, the ones at
the positions between the bounds of the quantifier.  The problems follow from how many these are.

## Main definitions

* `Quantifier.Covers`: a position is between the bounds
* `Quantifier.slice`: the members at these positions
* `Declaration.Matches`, `Declaration.matching`: the candidates of the right name and parameters
* `Declaration.IsShared`: a bare name that several candidates have
* `Declaration.shortcomings`: the problems with a number of selected members

## Main statements

* `Quantifier.selectAll_eq_slice`: a pass selects by position
* `Declaration.resolve_eq_slice`: the members that are selected and the problems that are reported

## Design notes

The position of a cursor stays put at the greatest bound, where a pass no longer tells one member
from the next.  No pass over fewer than `2 ^ 32` members gets beyond it.
-/

namespace MixinIndex

open Signature (Alike)

/-! ### Passes -/

namespace Quantifier

variable {α : Type}

/-- A position is between the bounds of a quantifier. -/
structure Covers (q : Quantifier) (position : Nat) : Prop where
  first : q.first ≤ position
  last : ∀ last, q.last = some last → position ≤ last

theorem accepts_iff {q : Quantifier} {position : Nat} :
    q.accepts position = true ↔ q.Covers position := by
  rw [accepts, Bool.and_eq_true, decide_eq_true_iff, Option.all_eq_true]
  simp only [decide_eq_true_iff]
  exact ⟨fun h => ⟨h.1, h.2⟩, fun h => ⟨h.first, h.last⟩⟩

instance (q : Quantifier) (position : Nat) : Decidable (q.Covers position) :=
  decidable_of_iff _ accepts_iff

/-- The members at the positions, counted from one, between the bounds of a quantifier. -/
def slice (q : Quantifier) (members : List α) : List α :=
  ((members.zipIdx 1).filter (q.Covers ·.2)).map (·.1)

theorem slice_map {β : Type} (q : Quantifier) (f : α → β) (members : List α) :
    q.slice (members.map f) = (q.slice members).map f := by
  rw [slice, slice, List.zipIdx_map, List.filter_map, List.map_map, List.map_map]
  rfl

/-- While it stays within the greatest bound, a pass selects by position. -/
theorem Cursor.selectAll_eq_filter (c : Cursor) (members : List α)
    (within : c.position + members.length ≤ maxBound + 1) :
    (c.selectAll members).1 =
      ((members.zipIdx c.position).filter fun m => c.quantifier.accepts m.2).map (·.1) := by
  induction members generalizing c with
  | nil => rfl
  | cons member members ih =>
      rw [List.length_cons] at within
      -- the position stays put only where nothing is left to pass
      have advanced : members.zipIdx c.step.2.position = members.zipIdx (c.position + 1) := by
        by_cases below : c.position < maxBound
        · rw [step, if_pos below]
        · obtain rfl : members = [] := List.length_eq_zero_iff.1 (by omega)
          rfl
      have rest := ih c.step.2 <| by
        simp only [step]
        split_ifs <;> omega
      rw [advanced, step_quantifier] at rest
      rw [List.zipIdx_cons, List.filter_cons]
      show (if c.quantifier.accepts c.position then member :: (c.step.2.selectAll members).1
        else (c.step.2.selectAll members).1) = _
      rw [rest]
      split_ifs
      · rfl
      · rfl

/-- A pass selects the members at the positions between the bounds. -/
theorem selectAll_eq_slice (q : Quantifier) {members : List α}
    (short : members.length < Nat.pow 2 32) : (q.cursor.selectAll members).1 = q.slice members := by
  have within : q.cursor.position + members.length ≤ maxBound + 1 := by
    show 1 + members.length ≤ Nat.pow 2 32 - 1 + 1
    omega
  rw [Cursor.selectAll_eq_filter q.cursor members within, slice]
  congr 2
  funext m
  rw [Bool.eq_iff_iff, decide_eq_true_iff]
  exact accepts_iff

/-! ### Reports -/

/-- The report that fewer members are selected than a quantifier demands. -/
def unsatisfied (q : Quantifier) (found : Nat) (subject : String) : Diagnostic :=
  ⟨.quantifierUnsatisfied, subject,
    "expected at least " ++ toString q.minimum ++ " match(es) but found " ++ toString found⟩

/-- The report that a quantifier selects nothing. -/
def unmatched (subject : String) : Diagnostic :=
  ⟨.quantifierEmpty, subject, "no members matched"⟩

theorem Cursor.report_eq (c : Cursor) (subject : String) :
    c.report subject =
      if c.found < c.quantifier.minimum then some (c.quantifier.unsatisfied c.found subject)
      else if c.found = 0 then some (unmatched subject) else none :=
  rfl

/-- What a pass reports depends on the number of members it selects. -/
theorem report_selectAll (q : Quantifier) (members : List α) (subject : String) :
    (q.cursor.selectAll members).2.report subject =
      if (q.cursor.selectAll members).1.length < q.minimum then
        some (q.unsatisfied (q.cursor.selectAll members).1.length subject)
      else if (q.cursor.selectAll members).1.length = 0 then some (unmatched subject)
      else none := by
  have found : (q.cursor.selectAll members).2.found = (q.cursor.selectAll members).1.length := by
    rw [Cursor.selectAll_found]
    exact Nat.zero_add _
  have demanded : (q.cursor.selectAll members).2.quantifier = q := Cursor.selectAll_quantifier _ _
  rw [Cursor.report_eq, demanded, found]

end Quantifier

/-! ### Matching candidates -/

/-- The names that a member goes by: those of constructors and of static initializers stand for
members of that sort, and any other name is a member's own. -/
inductive Member.GoesBy (m : Member) : String → Prop
  | constructor (isConstructor : m.isConstructor = true) : m.GoesBy constructorName
  | staticInitializer (isInitializer : m.isStaticInitializer = true) :
      m.GoesBy staticInitializerName
  | plain (notConstructor : m.name ≠ constructorName)
      (notInitializer : m.name ≠ staticInitializerName) : m.GoesBy m.name

namespace Declaration

variable {target : Declaration} {spec : Specifier} {candidates : List Member} {m : Member}

theorem nameMatches_iff :
    nameMatches spec m = true ↔ ∀ name ∈ spec.name, m.GoesBy name := by
  cases asked : spec.name with
  | none => simp [nameMatches, asked]
  | some name =>
      simp only [nameMatches, asked, Option.mem_def, Option.some.injEq, forall_eq']
      constructor
      · intro found
        split_ifs at found with constructed initialized
        · exact constructed ▸ .constructor found
        · exact initialized ▸ .staticInitializer found
        · obtain rfl := beq_iff_eq.1 found
          exact .plain constructed initialized
      · rintro (isConstructor | isInitializer | ⟨constructed, initialized⟩)
        · rw [if_pos rfl, isConstructor]
        · rw [if_neg (by decide), if_pos rfl, isInitializer]
        · rw [if_neg constructed, if_neg initialized, beq_self_eq_true]

/-- A candidate has the name and the parameters that a specifier asks for.  Parameters are compared
as they are erased, up to separators, and a field has none. -/
structure Matches (target : Declaration) (spec : Specifier) (m : Member) : Prop where
  name : ∀ name ∈ spec.name, m.GoesBy name
  parameters : ∀ descriptor ∈ spec.descriptor, m.kind ≠ .field ∧
    List.Forall₂ Alike (m.erasedParameters target.typeParameters)
      (descriptor.parameters.map (·.erase []))

theorem descriptorMatches_iff :
    target.descriptorMatches spec m = true ↔
      ∀ descriptor ∈ spec.descriptor, m.kind ≠ .field ∧
        List.Forall₂ Alike (m.erasedParameters target.typeParameters)
          (descriptor.parameters.map (·.erase [])) := by
  cases asked : spec.descriptor with
  | none => simp [descriptorMatches, asked]
  | some descriptor =>
      simp only [descriptorMatches, asked, Option.mem_def, Option.some.injEq, forall_eq',
        Bool.and_eq_true, bne_iff_ne, Member.parametersMatch, Signature.allSame_eq_true_iff]

theorem matches_iff :
    (nameMatches spec m && target.descriptorMatches spec m) = true ↔ target.Matches spec m := by
  rw [Bool.and_eq_true, nameMatches_iff, descriptorMatches_iff]
  exact ⟨fun h => ⟨h.1, h.2⟩, fun h => ⟨h.1, h.2⟩⟩

instance (target : Declaration) (spec : Specifier) (m : Member) :
    Decidable (target.Matches spec m) :=
  decidable_of_iff _ matches_iff

/-- The candidates that match a specifier, in order. -/
def matching (target : Declaration) (spec : Specifier) (candidates : List Member) : List Member :=
  candidates.filter (target.Matches spec ·)

/-- The eligible candidates are those that match. -/
theorem map_eligible (target : Declaration) (spec : Specifier) (candidates : List Member) :
    (target.eligible spec candidates).map (·.1) = target.matching spec candidates := by
  have same : (fun m => nameMatches spec m && target.descriptorMatches spec m) =
      fun m => decide (target.Matches spec m) := by
    funext m
    rw [Bool.eq_iff_iff, decide_eq_true_iff, matches_iff]
  rw [matching, ← same]
  conv_rhs => rw [← List.zipIdx_map_fst 0 candidates, List.filter_map]
  rfl

theorem length_eligible (target : Declaration) (spec : Specifier) (candidates : List Member) :
    (target.eligible spec candidates).length = (target.matching spec candidates).length := by
  rw [← map_eligible, List.length_map]

/-! ### Selection -/

/-- A name without a descriptor or a quantifier that several candidates go by. -/
structure IsShared (target : Declaration) (spec : Specifier) (candidates : List Member) : Prop where
  noQuantifier : spec.quantifier.isImplicit = true
  named : spec.name.isSome = true
  noDescriptor : spec.descriptor = none
  several : 2 ≤ (target.matching spec candidates).length

theorem isShared_iff :
    (isBareName spec && 1 < (target.eligible spec candidates).length) = true ↔
      target.IsShared spec candidates := by
  rw [Bool.and_eq_true, isBareName, Bool.and_eq_true, Bool.and_eq_true, Option.isNone_iff_eq_none,
    decide_eq_true_iff, length_eligible]
  exact ⟨fun ⟨⟨⟨a, b⟩, c⟩, d⟩ => ⟨a, c, b, d⟩, fun ⟨a, b, c, d⟩ => ⟨⟨⟨a, c⟩, b⟩, d⟩⟩

/-- The problems with a number of selected members: too few of them, or none at all. -/
def shortcomings (target : Declaration) (spec : Specifier) (found : Nat) : List Diagnostic :=
  if found < spec.quantifier.minimum then [spec.quantifier.unsatisfied found spec.raw]
  else if found = 0 then
    if spec.quantifier.isImplicit then [target.notFound spec.raw]
    else [Quantifier.unmatched spec.raw]
  else []

theorem shortcomings_zero (target : Declaration) (spec : Specifier) :
    target.shortcomings spec 0 ≠ [] := by
  rw [shortcomings, if_pos rfl]
  split_ifs
  · exact List.cons_ne_nil _ _
  · exact List.cons_ne_nil _ _
  · exact List.cons_ne_nil _ _

/-- A specifier applies to all types if it has no owner, and to its owner otherwise. -/
theorem appliesTo_iff :
    spec.appliesTo target.name = true ↔ ∀ owner ∈ spec.owner, owner = target.name := by
  rw [Specifier.appliesTo, Option.all_eq_true]
  simp only [beq_iff_eq, Option.mem_def]

/-- A specifier of another owner comes out empty, without a report. -/
theorem resolve_of_foreign (other : ∃ owner ∈ spec.owner, owner ≠ target.name) :
    target.resolve spec candidates = {} := by
  obtain ⟨owner, isOwner, different⟩ := other
  have elsewhere : spec.appliesTo target.name = false := by
    rw [← Bool.not_eq_true, appliesTo_iff]
    exact fun ours => different (ours owner isOwner)
  rw [resolve, elsewhere, Bool.not_false, if_pos rfl]

/-- Where no bare name is shared, the eligible candidates are passed. -/
theorem resolve_of_not_isShared (ours : ∀ owner ∈ spec.owner, owner = target.name)
    (single : ¬ target.IsShared spec candidates) :
    target.resolve spec candidates =
      { selected := (spec.quantifier.cursor.selectAll (target.eligible spec candidates)).1
        diagnostics := target.shortcomings spec
          (spec.quantifier.cursor.selectAll (target.eligible spec candidates)).1.length } := by
  rw [resolve, appliesTo_iff.2 ours, Bool.not_true, if_neg Bool.false_ne_true]
  simp only [if_neg (mt isShared_iff.1 single), Quantifier.report_selectAll]
  generalize (spec.quantifier.cursor.selectAll (target.eligible spec candidates)).1 = selected
  rw [shortcomings]
  congr 1
  split_ifs with few none implicit
  · simp only [Quantifier.unsatisfied]
    rfl
  · simp [Quantifier.unmatched, implicit]
  · simp [Quantifier.unmatched, implicit]
  · rfl

/-- A bare name that several candidates share selects none of them. -/
theorem resolve_of_isShared (ours : ∀ owner ∈ spec.owner, owner = target.name)
    (shared : target.IsShared spec candidates) :
    target.resolve spec candidates =
      { diagnostics := [target.ambiguous spec (target.matching spec candidates).length] } := by
  rw [resolve, appliesTo_iff.2 ours, Bool.not_true, if_neg Bool.false_ne_true]
  rw [← length_eligible]
  exact if_pos (isShared_iff.2 shared)

/-- The members selected from short lists are the slice of those that match. -/
theorem map_selectAll_eligible (spec : Specifier) (short : candidates.length < Nat.pow 2 32) :
    (spec.quantifier.cursor.selectAll (target.eligible spec candidates)).1.map (·.1) =
      spec.quantifier.slice (target.matching spec candidates) := by
  have fewer : (target.eligible spec candidates).length < Nat.pow 2 32 := by
    rw [length_eligible, matching]
    exact (List.length_filter_le _ _).trans_lt short
  rw [Quantifier.selectAll_eq_slice _ fewer, ← Quantifier.slice_map, map_eligible]

/-- Where no bare name is shared, the slice of the matching candidates is selected, and the problems
are those with its length. -/
theorem slice_of_not_isShared (ours : ∀ owner ∈ spec.owner, owner = target.name)
    (single : ¬ target.IsShared spec candidates) (short : candidates.length < Nat.pow 2 32) :
    (target.resolve spec candidates).members =
        spec.quantifier.slice (target.matching spec candidates) ∧
      (target.resolve spec candidates).diagnostics = target.shortcomings spec
        (spec.quantifier.slice (target.matching spec candidates)).length := by
  rw [resolve_of_not_isShared ours single, ← map_selectAll_eligible spec short, List.length_map]
  exact ⟨rfl, rfl⟩

/-- A specifier of another owner selects nothing and meets no problem.  A bare name that several
candidates share selects nothing and is reported as ambiguous.  Otherwise the matching candidates at
the positions between the bounds are selected, in order, and their number decides on the problems.
So a specifier that applies comes out empty only with a report, and members are left out only for
ambiguity. -/
theorem resolve_eq_slice (target : Declaration) (spec : Specifier) {candidates : List Member}
    (short : candidates.length < Nat.pow 2 32) :
    let resolution := target.resolve spec candidates
    let found := target.matching spec candidates
    let slice := spec.quantifier.slice found
    ((∃ owner ∈ spec.owner, owner ≠ target.name) →
      resolution.members = [] ∧ resolution.diagnostics = []) ∧
    ((∀ owner ∈ spec.owner, owner = target.name) →
      (target.IsShared spec candidates →
        resolution.members = [] ∧
          resolution.diagnostics = [target.ambiguous spec found.length]) ∧
      (¬ target.IsShared spec candidates →
        resolution.members = slice ∧
          resolution.diagnostics = target.shortcomings spec slice.length) ∧
      (resolution.members = [] → resolution.diagnostics ≠ []) ∧
      (resolution.members ≠ slice →
        resolution.diagnostics = [target.ambiguous spec found.length])) := by
  intro resolution found slice
  refine ⟨fun other => ?_, fun ours => ?_⟩
  · have nothing : resolution = {} := resolve_of_foreign other
    rw [nothing]
    exact ⟨rfl, rfl⟩
  have ambiguity (shared : target.IsShared spec candidates) :
      resolution.members = [] ∧ resolution.diagnostics = [target.ambiguous spec found.length] := by
    have refused : resolution = { diagnostics := _ } := resolve_of_isShared ours shared
    rw [refused]
    exact ⟨rfl, rfl⟩
  have selection (single : ¬ target.IsShared spec candidates) :
      resolution.members = slice ∧
        resolution.diagnostics = target.shortcomings spec slice.length :=
    slice_of_not_isShared ours single short
  refine ⟨ambiguity, selection, fun nothing => ?_, fun dropped => ?_⟩
  · by_cases shared : target.IsShared spec candidates
    · rw [(ambiguity shared).2]
      exact List.cons_ne_nil _ _
    · obtain ⟨members, problems⟩ := selection shared
      rw [problems, ← members, nothing]
      exact shortcomings_zero target spec
  · by_cases shared : target.IsShared spec candidates
    · exact (ambiguity shared).2
    · exact absurd (selection shared).1 dropped

/-- Of the methods that take an int, the second to the fourth are asked for; there are three. -/
theorem resolve_eq_slice_nest :
    let parse : String → Member := fun name => { name, parameters := [⟨"I"⟩] }
    let text : Member := { name := "text" }
    let candidates := [parse "first", text, parse "second", parse "third"]
    let target : Declaration := { name := ⟨"p.Nest"⟩ }
    let spec : Specifier := ⟨some ⟨"p.Nest"⟩, none, some ⟨[⟨"I"⟩], .void⟩, ⟨2, some 4, 2, "{2,4}"⟩,
      "Lp/Nest;*(I)V{2,4}"⟩
    candidates.length < Nat.pow 2 32 ∧
      (target.resolve spec candidates).members = [parse "second", parse "third"] ∧
      (target.resolve spec candidates).diagnostics = [] := by
  intro parse text candidates target spec
  have short : candidates.length < Nat.pow 2 32 := by decide
  obtain ⟨-, ours⟩ := resolve_eq_slice target spec short
  have quantified : ¬ target.IsShared spec candidates := fun shared => by
    have implicit := shared.noQuantifier
    revert implicit
    decide
  have taking (name : String) : target.Matches spec (parse name) := by
    have same : Alike (Signature.erase ⟨"I"⟩ [[], []]) (Signature.erase ⟨"I"⟩ []) := by decide
    refine ⟨by rintro _ ⟨⟩, ?_⟩
    rintro _ ⟨⟩
    exact ⟨by rintro ⟨⟩, .cons same .nil⟩
  have notText : ¬ target.Matches spec text := by decide
  have found : target.matching spec candidates =
      [parse "first", parse "second", parse "third"] := by
    simp [matching, candidates, taking, notText]
  obtain ⟨members, problems⟩ := (ours (by decide)).2.1 quantified
  rw [found] at members problems
  exact ⟨short, members, problems⟩

end Declaration

end MixinIndex
