import MixinIndex.Text.Printable

/-!
# Quoted text

A text between double quotes, as it is shown inside a report: what cannot be seen, or would join
the character before it, is written by its code point.

## Main definitions

* `quoted`: the text between quotes
* `quotedChar`: the written form of one character
-/

namespace MixinIndex.Text

/-- A character by its code point, in lower-case hexadecimal. -/
def codePoint (c : Char) : List Char :=
  ['\\', 'u', '\x7b'] ++ Nat.toDigits 16 c.toNat ++ ['\x7d']

/-- The written form of one character between double quotes. -/
def quotedChar (c : Char) : List Char :=
  if c = '\x00' then ['\\', '0']
  else if c = '\t' then ['\\', 't']
  else if c = '\r' then ['\\', 'r']
  else if c = '\n' then ['\\', 'n']
  else if c = '"' ∨ c = '\\' then ['\\', c]
  else if isExtending c || !isPrintable c then codePoint c
  else [c]

/-- A text between double quotes. -/
def quoted (text : String) : String :=
  String.ofList ('"' :: text.toList.flatMap quotedChar ++ ['"'])

end MixinIndex.Text
