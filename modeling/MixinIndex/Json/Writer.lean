import MixinIndex.Json.Basic
import MixinIndex.Decimal.Shortest

/-!
# Writing JSON

## Main definitions

* `Json.compact`: the value on one line without spaces
* `Json.pretty`: the value over several lines, two spaces a level

In both, strings escape only what JSON requires, and a number that is no whole number is the
shortest decimal that reads back.
-/

namespace MixinIndex.Json

/-- Numbers are positional from five places right of the point up to sixteen left of it, and every
exponent has a sign. -/
def numberFormat : DecimalFormat := ⟨-5, 16, "+"⟩

/-- The text of a number that is no whole number. -/
def floatText (negative : Bool) (magnitude : Binary64) : String :=
  (if negative then "-" else "") ++ numberFormat.render magnitude.shortest

/-- A lower-case hexadecimal digit. -/
def hexDigit (n : Nat) : Char :=
  if n < 10 then Char.ofNat ('0'.toNat + n) else Char.ofNat ('a'.toNat + (n - 10))

/-- The written form of one character of a string. -/
def escapeChar (c : Char) : List Char :=
  if c = '"' then ['\\', '"']
  else if c = '\\' then ['\\', '\\']
  else if c = '\x08' then ['\\', 'b']
  else if c = '\x0c' then ['\\', 'f']
  else if c = '\n' then ['\\', 'n']
  else if c = '\r' then ['\\', 'r']
  else if c = '\t' then ['\\', 't']
  else if c.toNat < 0x20 then
    ['\\', 'u', '0', '0', hexDigit (c.toNat / 16), hexDigit (c.toNat % 16)]
  else [c]

/-- A string between its quotes. -/
def quote (text : String) : String :=
  String.ofList ('"' :: text.toList.flatMap escapeChar ++ ['"'])

/-- The text of a value that holds no other values. -/
def scalarText : Json → String
  | .bool true => "true"
  | .bool false => "false"
  | .int n => toString n
  | .float negative magnitude => floatText negative magnitude
  | .string text => quote text
  | _ => "null"

mutual

/-- The value on one line. -/
def compact : Json → String
  | .array items => "[" ++ ",".intercalate (compactItems items) ++ "]"
  | .object members => "\x7b" ++ ",".intercalate (compactMembers members) ++ "\x7d"
  | value => scalarText value

/-- Each item on one line. -/
def compactItems : List Json → List String
  | [] => []
  | item :: items => item.compact :: compactItems items

/-- Each member on one line. -/
def compactMembers : List (String × Json) → List String
  | [] => []
  | (key, value) :: members => (quote key ++ ":" ++ value.compact) :: compactMembers members

end

/-- A line break followed by the indentation of a level. -/
def lineBreak (level : Nat) : String := String.ofList ('\n' :: List.replicate (2 * level) ' ')

/-- The parts of a container, one a line, between its brackets. -/
def block (level : Nat) (opening closing : String) : List String → String
  | [] => opening ++ closing
  | parts =>
    opening ++ lineBreak (level + 1) ++ ("," ++ lineBreak (level + 1)).intercalate parts ++
      lineBreak level ++ closing

mutual

/-- The value over several lines, at a given level of indentation. -/
def prettyAt (level : Nat) : Json → String
  | .array items => block level "[" "]" (prettyItems (level + 1) items)
  | .object members => block level "\x7b" "\x7d" (prettyMembers (level + 1) members)
  | value => scalarText value

/-- Each item at a given level. -/
def prettyItems (level : Nat) : List Json → List String
  | [] => []
  | item :: items => item.prettyAt level :: prettyItems level items

/-- Each member at a given level. -/
def prettyMembers (level : Nat) : List (String × Json) → List String
  | [] => []
  | (key, value) :: members =>
    (quote key ++ ": " ++ value.prettyAt level) :: prettyMembers level members

end

/-- The value over several lines. -/
def pretty (value : Json) : String := value.prettyAt 0

end MixinIndex.Json
