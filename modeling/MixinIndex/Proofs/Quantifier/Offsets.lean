import MixinIndex.Proofs.Quantifier.Grammar
import MixinIndex.Proofs.Text.FaultOffsets
import MixinIndex.Proofs.Text.Slicing

/-!
# Quantifiers and byte offsets

The reader of quantifiers once more, by slices: it cuts off the braces and cuts the bounds at their
comma.  Both readers agree on every token, so every slice has a result.  The offset of a fault is a
boundary of the token, which the reader of a specifier adds to the offset of the token.

## Main definitions

* `Quantifier.parseAt`: the quantifier of a token

## Main statements

* `Quantifier.parseAt_eq`: both readers agree
* `Quantifier.parse_failsWithin`: faults are at boundaries
-/

namespace MixinIndex.Quantifier

open Text

/-! ### Slices -/

/-- The text between a pair of braces. -/
def inBracesAt (token : List Char) : Slicing (Nat × Fault) (List Char) :=
  if token.head? = some '{' then do
    let rest ← from? token 1
    if rest.getLast? = some '}' then slice? rest 0 (byteLength rest - 1)
    else throw (0, .unrecognized token)
  else throw (0, .unrecognized token)

/-- First position, last position and minimum between braces. -/
def parseBoundsAt (inner : List Char) : Slicing (Nat × Fault) (Nat × Option Nat × Nat) :=
  match find? ',' inner with
  | none => do
    let n ← parseBound inner 1
    return (n, some n, 0)
  | some comma => do
    let lower ← slice? inner 0 comma
    let upper ← from? inner (comma + 1)
    match lower, upper with
    | [], [] => throw (1, .emptyBounds)
    | [], upper => do
      let u ← parseBound upper 2
      return (1, some u, 0)
    | lower, [] => do
      let l ← parseBound lower 1
      return (l, none, l)
    | lower, upper => do
      let l ← parseBound lower 1
      let u ← parseBound upper (byteLength lower + 2)
      if u < l then throw (1, .inverted l u) else return (l, some u, l)

/-- The quantifier of a token. -/
def parseAt (token : List Char) : Slicing (Nat × Fault) Quantifier :=
  match token with
  | [] => return implicit
  | ['*'] => return ⟨1, none, 0, "*"⟩
  | ['+'] => return ⟨1, none, 1, "+"⟩
  | _ => do
    let inner ← inBracesAt token
    let (first, last, minimum) ← parseBoundsAt inner
    return ⟨first, last, minimum, String.ofList token⟩

theorem inBracesAt_eq (token : List Char) : (inBracesAt token).run =
    some ((inBraces? token).elim (.error (0, .unrecognized token)) .ok) := by
  rw [inBracesAt]
  by_cases opened : token.head? = some '{'
  · obtain ⟨rest, rfl⟩ := List.head?_eq_some_iff.1 opened
    have behind : from? ('{' :: rest) 1 = some rest := from?_append ['{'] rest
    rw [if_pos opened, Slicing.run_lift_bind behind, inBraces?]
    by_cases closed : rest.getLast? = some '}'
    · obtain ⟨inner, rfl⟩ := List.getLast?_eq_some_iff.1 closed
      rw [if_pos closed, if_pos closed, List.dropLast_concat, byteLength_concat rfl,
        Nat.add_sub_cancel, slice?_zero]
      rfl
    · rw [if_neg closed, if_neg closed]
      rfl
  · rw [if_neg opened, inBraces?]
    · rfl
    · rintro rest rfl
      exact opened rfl

theorem parseBoundsAt_eq (inner : List Char) :
    (parseBoundsAt inner).run = some (parseBounds inner) := by
  rw [parseBoundsAt, parseBounds, find?]
  cases found : splitFirst? ',' inner with
  | none => exact Slicing.run_bind rfl fun n _ => rfl
  | some p =>
      obtain ⟨lower, upper⟩ := p
      obtain ⟨rfl, -⟩ := splitFirst?_eq_some.1 found
      simp only [Option.map_some]
      rw [Slicing.run_lift_bind (slice?_zero lower (',' :: upper)),
        Slicing.run_lift_bind (from?_concat rfl lower upper)]
      cases lower with
      | nil =>
          cases upper with
          | nil => rfl
          | cons d upper => exact Slicing.run_bind rfl fun u _ => rfl
      | cons c lower =>
          cases upper with
          | nil => exact Slicing.run_bind rfl fun l _ => rfl
          | cons d upper =>
              refine Slicing.run_bind rfl fun l _ => ?_
              refine Slicing.run_bind rfl fun u _ => ?_
              split_ifs <;> rfl

/-- A token is read by slices as it is without them. -/
theorem parseAt_eq (token : List Char) : (parseAt token).run = some (parse token) := by
  unfold parse
  split
  · rfl
  · rfl
  · rfl
  · rename_i notAbsent notStar notPlus
    have inner := inBracesAt_eq token
    rw [parseAt]
    · split
      · rename_i found
        rw [found] at inner
        exact Slicing.run_bind_of_error inner _
      · rename_i inner' found
        rw [found] at inner
        rw [Slicing.run_bind_of_ok inner]
        exact Slicing.run_bind (parseBoundsAt_eq inner') fun bounds _ => rfl
    · exact notAbsent
    · exact notStar
    · exact notPlus

/-! ### Faults -/

theorem parseBound_failsWithin {cs : List Char} (digits : List Char) {offset n : Nat}
    (h : IsOffset cs n) : FailsWithin offset cs (parseBound digits (offset + n)) := by
  intro e failed
  rw [parseBound] at failed
  split_ifs at failed
  · cases failed
    exact ⟨n, h, rfl⟩
  · cases failed
    exact ⟨n, h, rfl⟩

theorem parseBounds_failsWithin (inner : List Char) : FailsWithin 1 inner (parseBounds inner) := by
  have start : IsOffset inner 0 := isOffset_byteLength [] inner
  rw [parseBounds]
  split
  · exact (parseBound_failsWithin inner start).bind fun n _ => .ok _
  · exact .error_start _
  · rename_i upper _ found
    obtain ⟨rfl, -⟩ := splitFirst?_eq_some.1 found
    have behind : IsOffset (',' :: upper) 1 := isOffset_byteLength [','] upper
    exact (parseBound_failsWithin upper behind).bind fun u _ => .ok _
  · rename_i lower _ _
    exact (parseBound_failsWithin lower start).bind fun l _ => .ok _
  · rename_i lower upper _ _ _ found
    obtain ⟨rfl, -⟩ := splitFirst?_eq_some.1 found
    have behind : IsOffset (lower ++ ',' :: upper) (byteLength lower + 1) := by
      rw [List.append_cons, ← byteLength_concat (c := ',') rfl]
      exact isOffset_byteLength _ upper
    have upperOffset : byteLength lower + 2 = 1 + (byteLength lower + 1) := by omega
    rw [upperOffset]
    refine (parseBound_failsWithin lower start).bind fun l _ => ?_
    refine (parseBound_failsWithin upper behind).bind fun u _ => ?_
    split_ifs
    · exact .error_start _
    · exact .ok _

/-- A fault is at a boundary of the token. -/
theorem parse_failsWithin (token : List Char) : FailsWithin 0 token (parse token) := by
  unfold parse
  split
  · exact .ok _
  · exact .ok _
  · exact .ok _
  · split
    · exact .error_start _
    · rename_i inner found
      obtain rfl := inBraces?_eq_some.1 found
      exact (((parseBounds_failsWithin inner).before ['}']).behind ['{']).map _

end MixinIndex.Quantifier
