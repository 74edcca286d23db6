import MixinIndex.Specifier.Basic

/-!
# Reading specifiers

The text of a specifier is `owner name? quantifier? descriptor?`, where the owner is empty, dotted
segments each followed by a dot, or `L…;`.

## Main definitions

* `isNameChar`: the characters of names and owner segments
* `Specifier.dottedOwner`, `Specifier.wrappedOwner`: the owner in either notation
* `Specifier.scanName`, `Specifier.scanQuantifier`: the pieces after it
* `Specifier.parse`: the specifier of a text

## Design notes

The dotted owner ends at the last dot before the first parenthesis; everything behind it is
scanned from left to right.  Each piece is a list of characters, and the pieces put together are
the text.  Faults carry their byte offset in it.
-/

namespace MixinIndex

open Text

/-- ASCII letters and digits, `_`, `$`, and every character beyond ASCII. -/
def isNameChar (c : Char) : Bool :=
  c.isAlphanum || c == '_' || c == '$' || 0x80 ≤ c.toNat

namespace Specifier

/-- A fault and its byte offset. -/
abbrev Located := Nat × Fault

/-! ### Owners -/

/-- Every segment of a dotted owner is a name. -/
def checkSegments (offset : Nat) : List (List Char) → Except Located Unit
  | [] => .ok ()
  | segment :: segments =>
    if segment = [] then .error (offset, .emptyOwnerSegment)
    else
      match segment.dropWhile isNameChar with
      | c :: _ => .error (offset + byteLength (segment.takeWhile isNameChar), .unexpectedInOwner c)
      | [] => checkSegments (offset + byteLength segment + 1) segments

/-- The dotted owner of a text without parentheses, and what follows its dot. -/
def dottedOwner (cs : List Char) : Except Located (Option (List Char) × List Char) :=
  match splitLast? '.' cs with
  | none => .ok (none, cs)
  | some (owner, rest) =>
    (checkSegments 0 (splitAll '.' owner)).map fun () => (some owner, rest)

/-- The owner `L…;` at the start of a text without parentheses, and what follows it.  A text that
holds a semicolon has to start with such an owner. -/
def wrappedOwner (offset : Nat) (cs : List Char) :
    Except Located (Option (List Char) × List Char) :=
  match splitFirst? ';' cs with
  | none => .ok (none, cs)
  | some ('L' :: body, rest) =>
    if body = [] then .error (offset, .emptyOwner)
    else
      match body.dropWhile fun c => isNameChar c || c == '/' with
      | c :: _ =>
        .error (offset + 1 + byteLength (body.takeWhile fun c => isNameChar c || c == '/'),
          .unexpectedInOwner c)
      | [] => .ok (some ('L' :: (body ++ [';'])), rest)
  | some (before, _) => .error (offset + byteLength before, .unexpectedSemicolon)

/-! ### Name, quantifier, descriptor -/

/-- The name at the start of a text, possibly empty, and what follows it. -/
def scanName (offset : Nat) (cs : List Char) : Except Located (List Char × List Char) :=
  match cs with
  | '<' :: _ =>
    if constructorName.toList.isPrefixOf cs then
      .ok (constructorName.toList, cs.drop constructorName.length)
    else if staticInitializerName.toList.isPrefixOf cs then
      .ok (staticInitializerName.toList, cs.drop staticInitializerName.length)
    else .error (offset, .specialName)
  | cs => .ok (cs.takeWhile isNameChar, cs.dropWhile isNameChar)

/-- The token of a quantifier at the start of a text, possibly empty, and what follows it. -/
def scanQuantifier (offset : Nat) (cs : List Char) : Except Located (List Char × List Char) :=
  match cs with
  | '*' :: rest => .ok (['*'], rest)
  | '+' :: rest => .ok (['+'], rest)
  | '{' :: rest =>
    match splitFirst? '}' rest with
    | none => .error (offset, .unterminatedQuantifier)
    | some (inner, rest) => .ok ('{' :: (inner ++ ['}']), rest)
  | cs => .ok ([], cs)

/-- The descriptor that makes up the rest of a text, if anything is left of it. -/
def scanDescriptor (offset : Nat) (cs : List Char) : Except Located (Option Descriptor) :=
  match cs with
  | [] => .ok none
  | '(' :: rest =>
    match Descriptor.parse ('(' :: rest) with
    | .ok descriptor => .ok (some descriptor)
    | .error fault => .error (offset, .descriptor fault)
  | c :: _ => .error (offset, .unexpected c)

/-- A name that may be absent. -/
def nonEmpty (cs : List Char) : Option String :=
  if cs = [] then none else some (String.ofList cs)

/-- Name, quantifier and descriptor from the given offset on. -/
def parseMember (raw : String) (owner : Option (List Char)) (offset : Nat) (cs : List Char) :
    Except Located Specifier := do
  let (name, cs) ← scanName offset cs
  let offset := offset + byteLength name
  let (token, cs) ← scanQuantifier offset cs
  let quantifier ← (Quantifier.parse token).mapError fun e => (offset + e.1, .quantifier e.2)
  let descriptor ← scanDescriptor (offset + byteLength token) cs
  return {
    owner := owner.map fun cs => TypeName.ofText (String.ofList cs)
    name := nonEmpty name
    descriptor
    quantifier
    raw }

/-- The specifier of a text, or a fault and its offset. -/
def parse (raw : String) : Except Located Specifier := do
  let cs := raw.toList
  let head := cs.takeWhile (· != '(')
  let tail := cs.dropWhile (· != '(')
  let (dotted, rest) ← dottedOwner head
  let offset := match dotted with
    | some owner => byteLength owner + 1
    | none => 0
  let (wrapped, rest) ← wrappedOwner offset rest
  match dotted, wrapped with
  | some _, some _ => .error (offset, .twoOwners)
  | none, some owner => parseMember raw (some owner) (byteLength owner) (rest ++ tail)
  | dotted, none => parseMember raw dotted offset (rest ++ tail)

/-- Read a specifier, naming its text in the error. -/
def parseText (raw : String) : Except SyntaxError Specifier :=
  (parse raw).mapError fun e => ⟨raw, e.1, e.2⟩

end Specifier

end MixinIndex
