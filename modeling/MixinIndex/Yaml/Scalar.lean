import MixinIndex.Yaml.Basic

/-!
# Plain scalars

What a scalar without quotes stands for: null, a truth value, a whole number, a floating-point
number or a text, in this order.

## Main definitions

* `Yaml.integer?`: the whole number that a scalar is, of any size
* `Yaml.real?`: the floating-point number that a scalar is
* `Yaml.resolve?`: the value of a plain scalar

## Design notes

Digits after a needless zero make a text.  A whole number beyond 64 bits but within 128 is no
value at all; beyond that it is read as a floating-point number.  A decimal too large for a finite
double is a text.
-/

namespace MixinIndex.Yaml

/-- The value of a digit in a base up to sixteen. -/
def digit? (base : Nat) (c : Char) : Option Nat :=
  let value :=
    if '0' ≤ c ∧ c ≤ '9' then some (c.toNat - '0'.toNat)
    else if 'a' ≤ c ∧ c ≤ 'f' then some (c.toNat - 'a'.toNat + 10)
    else if 'A' ≤ c ∧ c ≤ 'F' then some (c.toNat - 'A'.toNat + 10)
    else none
  value.filter (· < base)

/-- The number that one or more digits stand for. -/
def digits? (base : Nat) (cs : List Char) : Option Nat :=
  if cs = [] then none else cs.foldlM (fun n c => (digit? base c).map (base * n + ·)) 0

/-- A scalar after its sign, and whether that was a minus. -/
def signed : List Char → Bool × List Char
  | '-' :: cs => (true, cs)
  | '+' :: cs => (false, cs)
  | cs => (false, cs)

/-- Digits that start with a needless zero, which are no number. -/
def isPaddedDigits (cs : List Char) : Bool :=
  match (signed cs).2 with
  | '0' :: d :: ds => (d :: ds).all Char.isDigit
  | _ => false

/-! ### Whole numbers -/

/-- A whole number after its sign: decimal, or in the base that its mark says. -/
def magnitude? : List Char → Option Nat
  | '0' :: 'x' :: cs => digits? 16 cs
  | '0' :: 'o' :: cs => digits? 8 cs
  | '0' :: 'b' :: cs => digits? 2 cs
  | cs => digits? 10 cs

/-- A whole number of any size. -/
def integer? (cs : List Char) : Option Int :=
  if isPaddedDigits cs then none
  else
    let (negative, cs) := signed cs
    (magnitude? cs).map fun n => if negative then -(n : Int) else n

/-! ### Floating-point numbers -/

/-- The decimal `digits * 10 ^ exponent` as a double, `none` if it is too large.  An exponent far
outside the range of the doubles is not worked out. -/
def decimal? (digits : Nat) (exponent : Int) : Option Binary64 :=
  let length : Int := digits.repr.length
  if digits = 0 ∨ exponent + length < -400 then some .zero
  else if 400 < exponent + length then none
  else
    match exponent with
    | .ofNat n => Binary64.round? (digits * Nat.pow 10 n) 1
    | .negSucc n => Binary64.round? digits (Nat.pow 10 (n + 1))

/-- The exponent of a decimal, zero if there is none. -/
def exponent? : List Char → Option Int
  | [] => some 0
  | c :: cs =>
    if c = 'e' ∨ c = 'E' then
      let (negative, cs) := signed cs
      (digits? 10 cs).map fun n => if negative then -(n : Int) else n
    else none

/-- A decimal without sign, with point and exponent if it has them. -/
def unsigned? (cs : List Char) : Option Binary64 := do
  let whole := cs.takeWhile Char.isDigit
  let rest := cs.dropWhile Char.isDigit
  let (fraction, rest) := match rest with
    | '.' :: rest => (rest.takeWhile Char.isDigit, rest.dropWhile Char.isDigit)
    | rest => ([], rest)
  let exponent ← exponent? rest
  let digits ← digits? 10 (whole ++ fraction)
  decimal? digits (exponent - fraction.length)

/-- The floating-point number that a scalar is. -/
def real? (cs : List Char) : Option Real :=
  let (negative, rest) := signed cs
  if [".inf", ".Inf", ".INF"].contains (String.ofList rest) then some (.infinite negative)
  else if [".nan", ".NaN", ".NAN"].contains (String.ofList cs) then some .undefined
  else
    (unsigned? rest).map fun magnitude =>
      .finite (negative && magnitude.mantissa != 0) magnitude

/-! ### Values -/

/-- Whether a scalar that is not empty is a null. -/
def isNull (text : String) : Bool := ["~", "null", "Null", "NULL"].contains text

/-- The truth value that a scalar is. -/
def bool? (text : String) : Option Bool :=
  if ["true", "True", "TRUE"].contains text then some true
  else if ["false", "False", "FALSE"].contains text then some false
  else none

/-- Whether a whole number is a value: it fits in 64 bits, with or without sign. -/
def isWord (n : Int) : Bool := -(Int.pow 2 63) ≤ n && n < Int.pow 2 64

/-- Whether a whole number fits in 128 bits, with or without sign. -/
def isDoubleWord (n : Int) : Bool := -(Int.pow 2 127) ≤ n && n < Int.pow 2 128

/-- The value of a plain scalar; `none` for a whole number of more than 64 bits. -/
def resolve? (text : String) : Option Yaml :=
  if text.isEmpty || isNull text then some .null
  else
    match bool? text, integer? text.toList with
    | some value, _ => some (.bool value)
    | none, some n =>
      if isWord n then some (.int n)
      else if isDoubleWord n then none
      else
        match real? text.toList with
        | some value => some (.float value)
        | none => some (.string text)
    | none, none =>
      match real? text.toList with
      | some value =>
        some (if isPaddedDigits text.toList then .string text else .float value)
      | none => some (.string text)

/-! ### Tagged scalars -/

/-- The namespace of the tags for the core types. -/
def coreTag (name : String) : String := "tag:yaml.org,2002:" ++ name

/-- The value of a scalar, which is a text unless it is plain. -/
def scalar? (text : String) (plain : Bool) : Option Yaml :=
  if plain then resolve? text else some (.string text)

/-- The value of a scalar under a tag that is not the application's own.  The tags of the core
types fix the type; any other makes the scalar a text. -/
def coreScalar? (tag : String) (text : String) : Option Yaml :=
  if tag = coreTag "bool" then (bool? text).map .bool
  else if tag = coreTag "int" then
    ((integer? text.toList).filter isWord).map .int
  else if tag = coreTag "float" then (real? text.toList).map .float
  else if tag = coreTag "null" then if isNull text then some .null else none
  else some (.string text)

end MixinIndex.Yaml
