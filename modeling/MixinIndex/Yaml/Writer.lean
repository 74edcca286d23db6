import MixinIndex.Decimal.Shortest
import MixinIndex.Yaml.Lexer
import MixinIndex.Yaml.Scalar

/-!
# Writing YAML

Block style with two spaces a level; the items of a sequence stand at the column of its key.  A
text is written plain where that reads back as the same text, else between single quotes, else
between double quotes with escapes; a text of several lines is a literal block if it can be one.

## Main definitions

* `Yaml.Features`: what in a text restricts the ways to write it
* `Yaml.style`: the way a text is written
* `Yaml.write`: the text of a mapping whose keys are plain words
-/

namespace MixinIndex.Yaml

/-! ### Choice of style -/

/-- What in a text restricts the ways to write it. -/
structure Features where
  /-- Something that means more than itself in a plain scalar. -/
  indicators : Bool
  /-- A character that only an escape can show. -/
  special : Bool
  /-- A line break. -/
  breaks : Bool
  /-- A space or break at the start or the end. -/
  edges : Bool
  /-- A space at the end. -/
  trailingSpace : Bool
  /-- A space right after a break. -/
  breakSpace : Bool
  /-- A break right after a space. -/
  spaceBreak : Bool

/-- Whether a character can be written as it is. -/
def isPlainChar (c : Char) : Bool :=
  let n := c.toNat
  n == 0xA || (0x20 ≤ n && n ≤ 0x7E) || (0xA0 ≤ n && n ≤ 0xFFFD && n != 0xFEFF) || 0x10000 ≤ n

/-- The marks that mean something at the start of a plain scalar, whatever follows. -/
def isLeadMark (c : Char) : Bool :=
  ['#', ',', '[', ']', '{', '}', '&', '*', '!', '|', '>', '\'', '"', '%', '@', '`'].contains c

/-- Whether the start of a text means more than itself. -/
def leadIndicator : List Char → Bool
  | c :: cs => isLeadMark c || ((c == '?' || c == ':' || c == '-') && atGap cs)
  | [] => false

/-- Whether something after the start of a text means more than itself: a colon before a gap, or a
number sign after one. -/
def innerIndicator : List Char → Bool
  | a :: b :: cs =>
    (b == ':' && atGap cs) || (b == '#' && (isGap a || isBreak a)) || innerIndicator (b :: cs)
  | _ => false

/-- Whether two neighbours with the given properties occur. -/
def hasPair (p q : Char → Bool) : List Char → Bool
  | a :: b :: cs => (p a && q b) || hasPair p q (b :: cs)
  | _ => false

/-- The features of a text. -/
def features (cs : List Char) : Features :=
  let isSpace (c : Char) : Bool := c == ' '
  let isEdge (c : Char) : Bool := isSpace c || isBreak c
  { indicators := ['-', '-', '-'].isPrefixOf cs || ['.', '.', '.'].isPrefixOf cs ||
      leadIndicator cs || innerIndicator cs
    special := cs.any (!isPlainChar ·)
    breaks := cs.any isBreak
    edges := cs.head?.any isEdge || cs.getLast?.any isEdge
    trailingSpace := cs.getLast?.any isSpace
    breakSpace := hasPair isBreak isSpace cs
    spaceBreak := hasPair isSpace isBreak cs }

/-- The ways to write a text. -/
inductive Style where
  | plain
  | singleQuoted
  | doubleQuoted
  | literal
  deriving DecidableEq

/-- Whether a plain scalar would be read as something else than a text. -/
def readsOtherwise (text : String) : Bool :=
  isPaddedDigits text.toList ||
    match resolve? text with
    | some (.string _) => false
    | _ => true

/-- The way a text is written. -/
def style (text : String) : Style :=
  let f := features text.toList
  let unquotable := f.spaceBreak || f.special
  if '\n' ∈ text.toList then
    if f.trailingSpace || unquotable then .doubleQuoted else .literal
  else if readsOtherwise text || f.edges || f.breaks || unquotable || f.indicators then
    if unquotable || f.breakSpace then .doubleQuoted else .singleQuoted
  else .plain

/-! ### Scalars -/

/-- An upper-case hexadecimal digit. -/
def hexDigit (n : Nat) : Char :=
  if n < 10 then Char.ofNat ('0'.toNat + n) else Char.ofNat ('A'.toNat + (n - 10))

/-- The given number of hexadecimal digits. -/
def hexDigits : Nat → Nat → List Char
  | 0, _ => []
  | width + 1, n => hexDigits width (n / 16) ++ [hexDigit (n % 16)]

/-- A character between double quotes. -/
def escape (c : Char) : List Char :=
  let letters : List (Nat × Char) :=
    [(0x0, '0'), (0x7, 'a'), (0x8, 'b'), (0x9, 't'), (0xA, 'n'), (0xB, 'v'), (0xC, 'f'),
      (0xD, 'r'), (0x1B, 'e'), (0x22, '"'), (0x5C, '\\'), (0x85, 'N'), (0xA0, '_'),
      (0x2028, 'L'), (0x2029, 'P')]
  if isPlainChar c && !isBreak c && c != '"' && c != '\\' then [c]
  else
    match letters.lookup c.toNat with
    | some letter => ['\\', letter]
    | none =>
      if c.toNat ≤ 0xFF then '\\' :: 'x' :: hexDigits 2 c.toNat
      else if c.toNat ≤ 0xFFFF then '\\' :: 'u' :: hexDigits 4 c.toNat
      else '\\' :: 'U' :: hexDigits 8 c.toNat

/-- The marks of a literal block: its indentation if it starts with a space or break, and what
happens to the breaks at its end. -/
def literalMarks (cs : List Char) : List Char :=
  let lead := if cs.head?.any fun c => c == ' ' || isBreak c then ['2'] else []
  let tail := match cs.reverse with
    | a :: b :: _ => if !isBreak a then ['-'] else if isBreak b then ['+'] else []
    | [a] => if isBreak a then ['+'] else ['-']
    | [] => ['-']
  lead ++ tail

/-- The lines of a literal block, each but the empty ones after the given number of spaces. -/
def indentLines (indent : Nat) (fresh : Bool) : List Char → List Char
  | [] => []
  | c :: cs =>
    if isBreak c then c :: indentLines indent true cs
    else (if fresh then List.replicate indent ' ' else []) ++ c :: indentLines indent false cs

/-- A text between single quotes.  A quote is written twice, and a line that follows a break starts
after the given number of spaces. -/
def singleQuoted (indent : Nat) (fresh : Bool) : List Char → List Char
  | [] => (if fresh then List.replicate indent ' ' else []) ++ ['\'']
  | c :: cs =>
    if isBreak c then c :: singleQuoted indent true cs
    else
      (if fresh then List.replicate indent ' ' else []) ++
        (if c = '\'' then ['\'', '\''] else [c]) ++ singleQuoted indent false cs

/-- A text as the value of a key or item of a collection at the given column, with the end of its
line. -/
def scalarLine (column : Nat) (text : String) : String :=
  let cs := text.toList
  match style text with
  | .plain => text ++ "\n"
  | .singleQuoted =>
    String.ofList ('\'' :: singleQuoted (column + 2) false cs) ++ "\n"
  | .doubleQuoted => String.ofList ('"' :: cs.flatMap escape) ++ "\"\n"
  | .literal =>
    "|" ++ String.ofList (literalMarks cs) ++ "\n" ++
      String.ofList (indentLines (column + 2) true cs) ++
        (if cs.getLast?.any isBreak then "" else "\n")

/-! ### Collections -/

/-- Numbers are positional from five places right of the point up to sixteen left of it. -/
def realFormat : DecimalFormat := ⟨-5, 16, ""⟩

/-- The text of a floating-point number. -/
def realText : Real → String
  | .undefined => ".nan"
  | .infinite negative => (if negative then "-" else "") ++ ".inf"
  | .finite negative magnitude =>
    (if negative then "-" else "") ++ realFormat.render magnitude.shortest

/-- The text of a scalar that is no text. -/
def plainText : Yaml → String
  | .bool true => "true"
  | .bool false => "false"
  | .int n => toString n
  | .float value => realText value
  | _ => "null"

/-- The spaces before a column. -/
def spaces (column : Nat) : String := String.ofList (List.replicate column ' ')

mutual

/-- A value after a key or dash of a collection at the given column. -/
def writeValue (column : Nat) : Yaml → String
  | .string text => " " ++ scalarLine column text
  | .sequence [] => " []\n"
  | .sequence items => "\n" ++ writeItems column items
  | .mapping [] => " \x7b\x7d\n"
  | .mapping entries => "\n" ++ writeEntries (column + 2) entries
  | .tagged tag value => " !" ++ tagName tag ++ writeValue column value
  | value => " " ++ plainText value ++ "\n"

/-- The items of a sequence at the given column. -/
def writeItems (column : Nat) : List Yaml → String
  | [] => ""
  | item :: items => spaces column ++ "-" ++ writeValue column item ++ writeItems column items

/-- The entries of a mapping at the given column. -/
def writeEntries (column : Nat) : List (Yaml × Yaml) → String
  | [] => ""
  | (key, value) :: entries =>
    let name := match key with
      | .string text => text
      | key => plainText key
    spaces column ++ name ++ ":" ++ writeValue column value ++ writeEntries column entries

end

/-- The text of a document. -/
def write : Yaml → String
  | .mapping entries => writeEntries 0 entries
  | .sequence items => writeItems 0 items
  | .string text => scalarLine 0 text
  | value => plainText value ++ "\n"

end MixinIndex.Yaml
