import MixinIndex.Json.Basic

/-!
# Reading JSON

A strict reader: no comments, no trailing commas, no byte order mark, nothing but white space
after the value.  It fails on text that is not JSON; text that is JSON but stands for no value
becomes `Json.unreadable` at that place.

## Main definitions

* `Json.read?`: the tree of a text, unreadable parts included
* `Json.readValue?`: the canonical value of a text all of whose parts are readable
* `NumberText`: the written parts of a number, and `NumberText.value` what they stand for

## Design notes

Each scanner takes the remaining characters and returns what it read and the rest.  Values nest,
so `value?` and its companions recurse on a bound that every call lowers; the length of the text
is enough, since every call but the first follows a consumed character.
-/

namespace MixinIndex.Json

/-- The deepest nesting of containers that is still read. -/
def maxDepth : Nat := 127

/-- The four characters that may stand between tokens. -/
def isSpace (c : Char) : Bool := c == ' ' || c == '\n' || c == '\t' || c == '\r'

/-- Skip the white space at the start. -/
def skipSpace (cs : List Char) : List Char := cs.dropWhile isSpace

/-! ### Numbers -/

/-- The parts of a number as written; `none` for a part that is absent. -/
structure NumberText where
  negative : Bool
  whole : List Char
  fraction : Option (List Char)
  exponent : Option (Bool × List Char)

/-- The value of a digit. -/
def digitValue (c : Char) : Nat := c.toNat - '0'.toNat

/-- The number a list of decimal digits stands for. -/
def digitsValue (cs : List Char) : Nat := cs.foldl (fun n c => 10 * n + digitValue c) 0

/-- The greatest unsigned 64-bit number. -/
def maxWord : Nat := Nat.pow 2 64 - 1

/-- Take digits into a significand while it fits in 64 bits; also say how many were left. -/
def takeDigits (significand : Nat) : List Char → Nat × Nat
  | [] => (significand, 0)
  | c :: cs =>
    let next := 10 * significand + digitValue c
    if maxWord < next then (significand, cs.length + 1) else takeDigits next cs

/-- The value of a number: a whole number if it is written as one and fits in 64 bits, else the
double made of the first digits that fit in 64 bits and a power of ten. -/
def NumberText.value (t : NumberText) : Json :=
  let (significand, dropped) := takeDigits 0 t.whole
  let isWhole := t.fraction.isNone && t.exponent.isNone && dropped == 0
  if isWhole && !t.negative then .int significand
  else if isWhole && 0 < significand && significand ≤ Nat.pow 2 63 then .int (-significand)
  else
    let digits := t.fraction.getD []
    let (significand, left) := takeDigits significand digits
    let places : Int := (dropped : Int) - ((digits.length - left : Nat) : Int)
    let power : Int := match t.exponent with
      | none => 0
      | some (true, ds) => -(digitsValue ds : Int)
      | some (false, ds) => digitsValue ds
    match Binary64.ofParts? significand (places + power) with
    | some magnitude => .float t.negative magnitude
    | none => .unreadable

/-- One or more decimal digits. -/
def digits? (cs : List Char) : Option (List Char × List Char) :=
  match cs.takeWhile Char.isDigit with
  | [] => none
  | ds => some (ds, cs.dropWhile Char.isDigit)

/-- The whole part of a number: a zero alone, or digits that do not start with one. -/
def whole? : List Char → Option (List Char × List Char)
  | '0' :: cs =>
    match cs with
    | c :: _ => if c.isDigit then none else some (['0'], cs)
    | [] => some (['0'], cs)
  | cs => digits? cs

/-- A fraction, if a point follows. -/
def fraction? : List Char → Option (Option (List Char) × List Char)
  | '.' :: cs => (digits? cs).map fun (ds, cs) => (some ds, cs)
  | cs => some (none, cs)

/-- An exponent, if its mark follows; the flag is set by a minus sign. -/
def exponent? : List Char → Option (Option (Bool × List Char) × List Char)
  | c :: cs =>
    if c = 'e' ∨ c = 'E' then
      match cs with
      | '-' :: cs => (digits? cs).map fun (ds, cs) => (some (true, ds), cs)
      | '+' :: cs => (digits? cs).map fun (ds, cs) => (some (false, ds), cs)
      | cs => (digits? cs).map fun (ds, cs) => (some (false, ds), cs)
    else some (none, c :: cs)
  | [] => some (none, [])

/-- A number. -/
def number? (cs : List Char) : Option (NumberText × List Char) := do
  let (negative, cs) := match cs with
    | '-' :: cs => (true, cs)
    | cs => (false, cs)
  let (whole, cs) ← whole? cs
  let (fraction, cs) ← fraction? cs
  let (exponent, cs) ← exponent? cs
  return (⟨negative, whole, fraction, exponent⟩, cs)

/-! ### Strings -/

/-- The value of a hexadecimal digit. -/
def hexValue? (c : Char) : Option Nat :=
  if c.isDigit then some (c.toNat - '0'.toNat)
  else if 'a' ≤ c ∧ c ≤ 'f' then some (c.toNat - 'a'.toNat + 10)
  else if 'A' ≤ c ∧ c ≤ 'F' then some (c.toNat - 'A'.toNat + 10)
  else none

/-- Four hexadecimal digits. -/
def hex4? : List Char → Option (Nat × List Char)
  | a :: b :: c :: d :: cs => do
    let n := 4096 * (← hexValue? a) + 256 * (← hexValue? b) + 16 * (← hexValue? c) +
      (← hexValue? d)
    return (n, cs)
  | _ => none

/-- A unit of a string's content: a character, or one half of a surrogate pair. -/
inductive StringUnit where
  | char (c : Char)
  | surrogate (code : Nat)

/-- The unit written by an escape, without its backslash. -/
def escape? : List Char → Option (StringUnit × List Char)
  | 'u' :: cs => do
    let (n, cs) ← hex4? cs
    return (if 0xD800 ≤ n ∧ n < 0xE000 then .surrogate n else .char (Char.ofNat n), cs)
  | c :: cs =>
    if c = '"' ∨ c = '\\' ∨ c = '/' then some (.char c, cs)
    else if c = 'b' then some (.char '\x08', cs)
    else if c = 'f' then some (.char '\x0c', cs)
    else if c = 'n' then some (.char '\n', cs)
    else if c = 'r' then some (.char '\r', cs)
    else if c = 't' then some (.char '\t', cs)
    else none
  | [] => none

theorem hex4?_length {cs rest : List Char} {n : Nat} (h : hex4? cs = some (n, rest)) :
    rest.length < cs.length := by
  unfold hex4? at h
  split at h
  · simp only [Option.bind_eq_bind, Option.bind_eq_some_iff, Option.pure_def,
      Option.some.injEq, Prod.mk.injEq] at h
    grind
  · simp at h

theorem escape?_length {cs rest : List Char} {u : StringUnit} (h : escape? cs = some (u, rest)) :
    rest.length < cs.length := by
  unfold escape? at h
  split at h
  · simp only [Option.bind_eq_bind, Option.bind_eq_some_iff, Option.pure_def,
      Option.some.injEq, Prod.mk.injEq] at h
    obtain ⟨p, hp, -, rfl⟩ := h
    have := hex4?_length hp
    simp
    omega
  · grind
  · simp at h

/-- The units of a string up to its closing quote, which is consumed. -/
def stringUnits? (cs : List Char) : Option (List StringUnit × List Char) :=
  match cs with
  | [] => none
  | '"' :: cs => some ([], cs)
  | '\\' :: cs =>
    match h : escape? cs with
    | none => none
    | some (u, rest) =>
      have := escape?_length h
      (stringUnits? rest).map fun (us, cs) => (u :: us, cs)
  | c :: cs =>
    if c.toNat < 0x20 then none
    else (stringUnits? cs).map fun (us, cs) => (.char c :: us, cs)
termination_by cs.length

/-- The text of a string's units; `none` where a surrogate stands alone. -/
def textOfUnits? : List StringUnit → Option (List Char)
  | [] => some []
  | .char c :: us => (textOfUnits? us).map (c :: ·)
  | .surrogate high :: .surrogate low :: us =>
    if high < 0xDC00 ∧ 0xDC00 ≤ low then
      (textOfUnits? us).map (Char.ofNat (0x10000 + (high - 0xD800) * 0x400 + (low - 0xDC00)) :: ·)
    else none
  | .surrogate _ :: _ => none

/-- A string after its opening quote; the inner `none` is a string that is no text. -/
def stringBody? (cs : List Char) : Option (Option String × List Char) :=
  (stringUnits? cs).map fun (us, cs) => ((textOfUnits? us).map String.ofList, cs)

/-! ### Values -/

/-- Skip a given word. -/
def word? (word : List Char) (value : Json) (cs : List Char) : Option (Json × List Char) :=
  if word.isPrefixOf cs then some (value, cs.drop word.length) else none

/-- The object with the given members; it is unreadable as soon as one key is. -/
def objectOf (members : List (Option String × Json)) : Json :=
  match members.mapM fun m => m.1.map (·, m.2) with
  | some members => .object members
  | none => .unreadable

mutual

/-- A value, with white space before it; `depth` is the nesting that is still allowed. -/
def value? (depth : Nat) : Nat → List Char → Option (Json × List Char)
  | 0, _ => none
  | bound + 1, cs =>
    match skipSpace cs with
    | [] => none
    | '{' :: cs =>
      (match skipSpace cs with
        | '}' :: cs => some ([], cs)
        | cs => members? (depth - 1) bound cs).map fun (members, cs) =>
          (if depth = 0 then .unreadable else objectOf members, cs)
    | '[' :: cs =>
      (match skipSpace cs with
        | ']' :: cs => some ([], cs)
        | cs => items? (depth - 1) bound cs).map fun (items, cs) =>
          (if depth = 0 then .unreadable else .array items, cs)
    | '"' :: cs =>
      (stringBody? cs).map fun (text, cs) => (text.elim .unreadable .string, cs)
    | c :: cs =>
      if c = 't' then word? ['r', 'u', 'e'] (.bool true) cs
      else if c = 'f' then word? ['a', 'l', 's', 'e'] (.bool false) cs
      else if c = 'n' then word? ['u', 'l', 'l'] .null cs
      else (number? (c :: cs)).map fun (n, cs) => (n.value, cs)

/-- The items of an array up to its closing bracket, which is consumed. -/
def items? (depth : Nat) : Nat → List Char → Option (List Json × List Char)
  | 0, _ => none
  | bound + 1, cs =>
    match value? depth bound cs with
    | none => none
    | some (item, cs) =>
      match skipSpace cs with
      | ',' :: cs => (items? depth bound cs).map fun (items, cs) => (item :: items, cs)
      | ']' :: cs => some ([item], cs)
      | _ => none

/-- The members of an object up to its closing brace, which is consumed. -/
def members? (depth : Nat) : Nat → List Char → Option (List (Option String × Json) × List Char)
  | 0, _ => none
  | bound + 1, cs =>
    match skipSpace cs with
    | '"' :: cs =>
      match stringBody? cs with
      | none => none
      | some (key, cs) =>
        match skipSpace cs with
        | ':' :: cs =>
          match value? depth bound cs with
          | none => none
          | some (value, cs) =>
            match skipSpace cs with
            | ',' :: cs =>
              (members? depth bound cs).map fun (members, cs) => ((key, value) :: members, cs)
            | '}' :: cs => some ([(key, value)], cs)
            | _ => none
        | _ => none
    | _ => none

end

/-- The tree of a JSON text. -/
def read? (text : String) : Option Json :=
  let cs := text.toList
  match value? maxDepth (2 * cs.length + 1) cs with
  | some (value, rest) => if (skipSpace rest).isEmpty then some value else none
  | none => none

/-- The canonical value of a JSON text in which nothing is unreadable. -/
def readValue? (text : String) : Option Json :=
  match read? text with
  | some value => if value.isReadable then some value.canonical else none
  | none => none

end MixinIndex.Json
