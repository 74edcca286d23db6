import MixinIndex.Diagnostic
import MixinIndex.Text.Offset
import MixinIndex.Text.Split

/-!
# Quantifiers

The suffix of a specifier that says how many members it selects.

| token   | first | last | minimum |
|---------|-------|------|---------|
| (none)  | 1     | 1    | 0       |
| `*`     | 1     | none | 0       |
| `+`     | 1     | none | 1       |
| `{N}`   | N     | N    | 0       |
| `{L,}`  | L     | none | L       |
| `{,U}`  | 1     | U    | 0       |
| `{L,U}` | L     | U    | L       |

## Main definitions

* `Quantifier`: positions selected, matches demanded, and the token as written
* `Quantifier.parse`: the quantifier of a token, or an offset in the token with a fault
* `Quantifier.Cursor`: one pass over the eligible members, which counts and selects
* `Quantifier.Cursor.report`: what is wrong at the end of a pass, if anything

## Design notes

A quantifier never changes; the state of a pass lives in the cursor.  The pass numbers members
from one; the number stays put once it has reached `maxBound`, the greatest bound there is.

The count of the matches does not need to stay put.  It grows by the number of members selected
(`Cursor.selectAll_found`), which are some of those passed; so over fewer than `2 ^ 32` members it
is at most `maxBound`, and a count of 32 bits does not overflow.
-/

namespace MixinIndex

open Text

/-- Positions selected, matches demanded and the token as written. -/
structure Quantifier where
  /-- The first position selected. -/
  first : Nat
  /-- The last position selected; absent where there is no end. -/
  last : Option Nat
  /-- The least number of matches. -/
  minimum : Nat
  /-- The token, empty when none was written. -/
  token : String
  deriving DecidableEq

namespace Quantifier

/-- What can be wrong with a token. -/
inductive Fault where
  | unrecognized (token : List Char)
  | emptyBounds
  | notANumber (digits : List Char)
  | outOfRange (digits : List Char)
  | inverted (lower upper : Nat)
  deriving DecidableEq

/-- The reason given for a fault. -/
def Fault.reason : Fault → String
  | unrecognized token => "unrecognized quantifier '" ++ String.ofList token ++ "'"
  | emptyBounds => "empty quantifier bounds"
  | notANumber digits => "expected a number, found '" ++ String.ofList digits ++ "'"
  | outOfRange digits =>
    "bound '" ++ String.ofList digits ++
      "' out of range: number too large to fit in target type"
  | inverted lower upper =>
    "lower bound " ++ toString lower ++ " exceeds upper bound " ++ toString upper

/-- The quantifier of a specifier without one: the first match, which may be missing. -/
def implicit : Quantifier := ⟨1, some 1, 0, ""⟩

/-- Whether no token was written. -/
def isImplicit (q : Quantifier) : Bool := q.token.isEmpty

/-! ### Reading -/

/-- The greatest bound. -/
def maxBound : Nat := Nat.pow 2 32 - 1

/-- The number that decimal digits stand for. -/
def digitsValue (digits : List Char) : Nat :=
  digits.foldl (fun n c => 10 * n + (c.toNat - '0'.toNat)) 0

/-- A bound written at the given offset. -/
def parseBound (digits : List Char) (offset : Nat) : Except (Nat × Fault) Nat :=
  if digits = [] ∨ ¬ digits.all Char.isDigit then .error (offset, .notANumber digits)
  else if maxBound < digitsValue digits then .error (offset, .outOfRange digits)
  else .ok (digitsValue digits)

/-- First position, last position and minimum written between braces. -/
def parseBounds (inner : List Char) : Except (Nat × Fault) (Nat × Option Nat × Nat) :=
  match splitFirst? ',' inner with
  | none => do
    let n ← parseBound inner 1
    return (n, some n, 0)
  | some ([], []) => .error (1, .emptyBounds)
  | some ([], upper) => do
    let u ← parseBound upper 2
    return (1, some u, 0)
  | some (lower, []) => do
    let l ← parseBound lower 1
    return (l, none, l)
  | some (lower, upper) => do
    let l ← parseBound lower 1
    let u ← parseBound upper (byteLength lower + 2)
    if u < l then .error (1, .inverted l u) else return (l, some u, l)

/-- The text between a pair of braces. -/
def inBraces? : List Char → Option (List Char)
  | '{' :: rest => if rest.getLast? = some '}' then some rest.dropLast else none
  | _ => none

/-- The quantifier of a token; a fault comes with its offset in the token. -/
def parse (token : List Char) : Except (Nat × Fault) Quantifier :=
  match token with
  | [] => .ok implicit
  | ['*'] => .ok ⟨1, none, 0, "*"⟩
  | ['+'] => .ok ⟨1, none, 1, "+"⟩
  | _ =>
    match inBraces? token with
    | none => .error (0, .unrecognized token)
    | some inner =>
      (parseBounds inner).map fun (first, last, minimum) =>
        ⟨first, last, minimum, String.ofList token⟩

/-! ### Passes -/

/-- Whether the member at a position is selected. -/
def accepts (q : Quantifier) (position : Nat) : Bool :=
  q.first ≤ position && q.last.all (position ≤ ·)

/-- The state of one pass over the eligible members. -/
structure Cursor where
  quantifier : Quantifier
  /-- The position of the next member. -/
  position : Nat
  /-- The matches so far. -/
  found : Nat
  deriving DecidableEq

/-- A pass that has seen no member. -/
def cursor (q : Quantifier) : Cursor := ⟨q, 1, 0⟩

namespace Cursor

/-- Pass one member: whether it is selected, and the state after it. -/
def step (c : Cursor) : Bool × Cursor :=
  let accepted := c.quantifier.accepts c.position
  (accepted,
    { c with
      position := if c.position < maxBound then c.position + 1 else c.position
      found := if accepted then c.found + 1 else c.found })

/-- Pass all members in order: those selected, and the state after them. -/
def selectAll {α : Type} (c : Cursor) : List α → List α × Cursor
  | [] => ([], c)
  | member :: members =>
    let (accepted, next) := c.step
    let (selected, final) := next.selectAll members
    (if accepted then member :: selected else selected, final)

/-- The report at the end of a pass: an error below the minimum, a warning without a match. -/
def report (c : Cursor) (subject : String) : Option Diagnostic :=
  if c.found < c.quantifier.minimum then
    some ⟨.quantifierUnsatisfied, subject,
      "expected at least " ++ toString c.quantifier.minimum ++ " match(es) but found " ++
        toString c.found⟩
  else if c.found = 0 then some ⟨.quantifierEmpty, subject, "no members matched"⟩
  else none

@[simp] theorem step_quantifier (c : Cursor) : c.step.2.quantifier = c.quantifier := rfl

@[simp] theorem selectAll_quantifier {α : Type} (c : Cursor) (members : List α) :
    (c.selectAll members).2.quantifier = c.quantifier := by
  induction members generalizing c with
  | nil => rfl
  | cons m ms ih => simp [selectAll, ih]

/-- The count grows by the number of members selected. -/
theorem selectAll_found {α : Type} (c : Cursor) (members : List α) :
    (c.selectAll members).2.found = c.found + (c.selectAll members).1.length := by
  induction members generalizing c with
  | nil => rfl
  | cons m ms ih =>
    simp only [selectAll, ih]
    cases hc : c.quantifier.accepts c.position
    · simp [step, hc]
    · simp [step, hc]
      omega

end Cursor

end Quantifier

end MixinIndex
