import MixinIndex.Text.Offset

/-!
# YAML tokens

The tokens of a YAML stream.  Indentation becomes tokens too: a block collection starts where a
deeper column is reached and ends where it is left.

## Main definitions

* `Yaml.Token`: the tokens
* `Yaml.Lexer`: the state of the scan
* `Yaml.tokenize?`: the tokens of a stream

## Design notes

A node that may turn out to be a key is remembered with the place of its first token; when a
colon follows on the same line, not too far away, the key token is put in at that place.  A node
that stands at the indentation of the enclosing mapping has to be a key.  Each flow collection has
its own remembered node.

A tag is kept as octets, since the escapes in it need not make up a text.
-/

namespace MixinIndex.Yaml

open Text

/-- The octets of a tag. -/
abbrev Octets := List UInt8

/-- A token. -/
inductive Token where
  /-- The version of the format that a document is written in. -/
  | version (major minor : Nat)
  /-- What a tag's handle stands for in a document. -/
  | tagHandle (handle : String) (meaning : Octets)
  | documentStart
  | documentEnd
  | blockSequenceStart
  | blockMappingStart
  | blockEnd
  | flowSequenceStart
  | flowSequenceEnd
  | flowMappingStart
  | flowMappingEnd
  | blockEntry
  | flowEntry
  | key
  | value
  | alias (name : String)
  | anchor (name : String)
  /-- A tag; the handle is empty if the tag is written out. -/
  | tag (handle : String) (suffix : Octets)
  | scalar (text : String) (plain : Bool)
  deriving DecidableEq

/-- A node that a colon may turn into a key. -/
structure PendingKey where
  /-- The number of tokens before the node. -/
  place : Nat
  /-- Whether the node has to be a key. -/
  required : Bool
  line : Nat
  column : Nat
  /-- The number of bytes before it on its line. -/
  offset : Nat
  deriving DecidableEq

/-- The state of the scan. -/
structure Lexer where
  rest : List Char
  line : Nat := 0
  column : Nat := 0
  /-- The number of bytes read on the current line. -/
  offset : Nat := 0
  /-- The tokens so far, the last one first. -/
  emitted : List Token := []
  /-- The number of them. -/
  count : Nat := 0
  /-- The column of the innermost block collection, -1 outside of all. -/
  indent : Int := -1
  /-- The columns of the collections around it. -/
  outer : List Int := []
  /-- Whether a node here may be a key. -/
  keyAllowed : Bool := true
  /-- The remembered node of the block level or of the innermost flow collection. -/
  pending : Option PendingKey := none
  /-- Those of the levels around it; its length is the depth of flow collections. -/
  outerPending : List (Option PendingKey) := []

/-! ### Characters -/

/-- The characters that end a line. -/
def isBreak (c : Char) : Bool :=
  c == '\n' || c == '\r' || c.toNat == 0x85 || c.toNat == 0x2028 || c.toNat == 0x2029

/-- A space or a tab. -/
def isGap (c : Char) : Bool := c == ' ' || c == '\t'

/-- Whether a text is at its end, or at a gap or a line break. -/
def atGap : List Char → Bool
  | [] => true
  | c :: _ => isGap c || isBreak c

/-- Whether a character may occur in a stream at all. -/
def isAllowed (c : Char) : Bool :=
  let n := c.toNat
  n == 0x9 || n == 0xA || n == 0xD || (0x20 ≤ n && n ≤ 0x7E) || n == 0x85 ||
    (0xA0 ≤ n && n ≤ 0xFFFD) || 0x10000 ≤ n

/-- The line break at the start of a text, as it is kept in a scalar, and what follows it. -/
def takeBreak : List Char → List Char × List Char
  | '\r' :: '\n' :: cs => (['\n'], cs)
  | c :: cs => (if c.toNat == 0x2028 || c.toNat == 0x2029 then [c] else ['\n'], cs)
  | [] => ([], [])

/-- Whether a text starts with a mark of three characters that stands alone. -/
def startsMark (mark : List Char) (cs : List Char) : Bool :=
  mark.isPrefixOf cs && atGap (cs.drop 3)

/-- Whether a text starts with a document mark. -/
def atDocumentMark (cs : List Char) : Bool :=
  startsMark ['-', '-', '-'] cs || startsMark ['.', '.', '.'] cs

namespace Lexer

/-- Move past `n` characters of the current line. -/
def advance (s : Lexer) (n : Nat) : Lexer :=
  { s with
    rest := s.rest.drop n, column := s.column + n,
    offset := s.offset + byteLength (s.rest.take n) }

/-- Move past a line break. -/
def newLine (s : Lexer) : Lexer :=
  { s with rest := (takeBreak s.rest).2, line := s.line + 1, column := 0, offset := 0 }

/-- Whether the scan is inside a flow collection. -/
def inFlow (s : Lexer) : Bool := !s.outerPending.isEmpty

/-- Append a token. -/
def emit (s : Lexer) (t : Token) : Lexer :=
  { s with emitted := t :: s.emitted, count := s.count + 1 }

/-- Put a token in at a given place. -/
def emitAt (s : Lexer) (place : Nat) (t : Token) : Lexer :=
  let later := s.count - place
  { s with
    emitted := s.emitted.take later ++ t :: s.emitted.drop later, count := s.count + 1 }

/-! ### Indentation and keys -/

/-- Open a block collection if the column is deeper than the current one. -/
def openBlock (s : Lexer) (column : Nat) (place : Nat) (t : Token) : Lexer :=
  if !s.inFlow ∧ s.indent < column then
    { s.emitAt place t with indent := column, outer := s.indent :: s.outer }
  else s

/-- Close the block collections that are deeper than a column. -/
def closeBlocks (column : Int) : List Int → Lexer → Lexer
  | [], s => s
  | previous :: outer, s =>
    if s.indent ≤ column then s
    else closeBlocks column outer { s.emit .blockEnd with indent := previous, outer := outer }

/-- Close the block collections that the current column leaves. -/
def unroll (s : Lexer) (column : Int) : Lexer :=
  if s.inFlow then s else closeBlocks column s.outer s

/-- Forget the remembered node, which fails if it had to be a key. -/
def dropKey? (s : Lexer) : Option Lexer :=
  match s.pending with
  | some key => if key.required then none else some { s with pending := none }
  | none => some s

/-- Remember the node that starts here. -/
def saveKey? (s : Lexer) : Option Lexer :=
  if s.keyAllowed then do
    let s ← s.dropKey?
    return { s with
      pending := some
        ⟨s.count, !s.inFlow && s.indent == s.column, s.line, s.column, s.offset⟩ }
  else some s

/-- The greatest number of bytes from the start of a key to its colon. -/
def maxKeyLength : Nat := 1024

/-- Forget remembered nodes that a colon can no longer reach. -/
def dropStale? (s : Lexer) : Option Lexer := do
  let check (key : Option PendingKey) : Option (Option PendingKey) :=
    match key with
    | some k =>
      if k.line < s.line ∨ k.offset + maxKeyLength < s.offset then
        if k.required then none else some none
      else some key
    | none => some none
  return { s with pending := ← check s.pending, outerPending := ← s.outerPending.mapM check }

/-! ### Between tokens -/

/-- The mark that may start a stream, and any line of it. -/
def isByteOrderMark (c : Char) : Bool := c.toNat == 0xFEFF

/-- Skip gaps, comments and line breaks.  A tab cannot take the place of indentation.  A byte
order mark at the start of a line is skipped, but takes up a column. -/
def skip (s : Lexer) : Nat → Lexer
  | 0 => s
  | bound + 1 =>
    match s.rest with
    | [] => s
    | c :: cs =>
      if c = ' ' ∨ (c = '\t' ∧ (s.inFlow ∨ !s.keyAllowed)) ∨
          (s.column = 0 ∧ isByteOrderMark c) then
        (s.advance 1).skip bound
      else if c = '#' then
        (s.advance ((c :: cs).takeWhile (!isBreak ·)).length).skip bound
      else if isBreak c then
        { s.newLine with keyAllowed := s.keyAllowed || !s.inFlow }.skip bound
      else s

/-! ### Plain and quoted scalars -/

/-- What a run of gaps and breaks between two parts of a scalar folds to: the gaps of one line,
or one space for a single break, or the breaks after the first. -/
structure Fold where
  gaps : List Char := []
  /-- The first break, once there is one; empty for an escaped break. -/
  first : Option (List Char) := none
  more : List Char := []

/-- The characters that a run of gaps and breaks stands for. -/
def Fold.chars (f : Fold) : List Char :=
  match f.first with
  | none => f.gaps
  | some ['\n'] => if f.more.isEmpty then [' '] else f.more
  | some first => first ++ f.more

/-- Read a run of gaps and breaks.  A tab before the column `indent` of a later line fails. -/
def fold? (indent : Int) (s : Lexer) (f : Fold) : Nat → Option (Fold × Lexer)
  | 0 => none
  | bound + 1 =>
    match s.rest with
    | [] => some (f, s)
    | c :: _ =>
      if isGap c then
        if f.first.isSome ∧ c = '\t' ∧ (s.column : Int) < indent then none
        else
          fold? indent (s.advance 1)
            (if f.first.isSome then f else { f with gaps := f.gaps ++ [c] }) bound
      else if isBreak c then
        let kept := (takeBreak s.rest).1
        fold? indent s.newLine
          (match f.first with
            | none => { gaps := [], first := some kept }
            | some _ => { f with more := f.more ++ kept }) bound
      else some (f, s)

/-- The characters that end a plain scalar inside a flow collection. -/
def isFlowMark (c : Char) : Bool := [',', '[', ']', '{', '}'].contains c

/-- The characters that must not follow a colon in a plain scalar inside a flow collection. -/
def isBarredAfterColon (c : Char) : Bool := c == '?' || isFlowMark c

/-- The part of a plain scalar up to the next gap, break, colon or comma that ends it. -/
def plainRun? (flow : Bool) : List Char → Option (List Char)
  | [] => some []
  | c :: cs =>
    if isGap c ∨ isBreak c then some []
    else if c = ':' ∧ atGap cs then some []
    else if flow ∧ c = ':' ∧ cs.head?.any isBarredAfterColon then none
    else if flow ∧ isFlowMark c then some []
    else (plainRun? flow cs).map (c :: ·)

/-- The rest of a plain scalar; what was read so far is followed by the fold. -/
def plain? (indent : Int) (s : Lexer) (read : List Char) (f : Fold) : Nat → Option Lexer
  | 0 => none
  | bound + 1 => do
    let finish : Lexer :=
      { s.emit (.scalar (String.ofList read) true) with
        keyAllowed := s.keyAllowed || f.first.isSome }
    if (s.column = 0 ∧ atDocumentMark s.rest) ∨ s.rest.head? = some '#' then return finish
    let run ← plainRun? s.inFlow s.rest
    if run.isEmpty then return finish
    let read := read ++ (if read.isEmpty then [] else f.chars) ++ run
    let s := s.advance run.length
    let (f, next) ← fold? indent s {} bound
    let ended : Lexer :=
      { next.emit (.scalar (String.ofList read) true) with
        keyAllowed := next.keyAllowed || f.first.isSome }
    if f.gaps.isEmpty ∧ f.first.isNone then return ended
    if !next.inFlow ∧ (next.column : Int) < indent then return ended
    plain? indent next read f bound

/-- The character of a one-letter escape. -/
def escapeChar? (c : Char) : Option Char :=
  [('0', '\x00'), ('a', '\x07'), ('b', '\x08'), ('t', '\t'), ('\t', '\t'), ('n', '\n'),
    ('v', '\x0b'), ('f', '\x0c'), ('r', '\r'), ('e', '\x1b'), (' ', ' '), ('"', '"'),
    ('/', '/'), ('\\', '\\'), ('N', Char.ofNat 0x85), ('_', Char.ofNat 0xA0),
    ('L', Char.ofNat 0x2028), ('P', Char.ofNat 0x2029)].lookup c

/-- The number of hexadecimal digits after an escape letter. -/
def hexLength? (c : Char) : Option Nat := [('x', 2), ('u', 4), ('U', 8)].lookup c

/-- The value of a hexadecimal digit. -/
def hexValue? (c : Char) : Option Nat :=
  if '0' ≤ c ∧ c ≤ '9' then some (c.toNat - '0'.toNat)
  else if 'a' ≤ c ∧ c ≤ 'f' then some (c.toNat - 'a'.toNat + 10)
  else if 'A' ≤ c ∧ c ≤ 'F' then some (c.toNat - 'A'.toNat + 10)
  else none

/-- The character of an escape without its backslash, and the length of it. -/
def escape? : List Char → Option (Char × Nat)
  | [] => none
  | c :: cs =>
    match hexLength? c with
    | some n => do
      let digits := cs.take n
      if digits.length < n then none
      let code ← digits.foldlM (fun m d => (hexValue? d).map (16 * m + ·)) 0
      if (0xD800 ≤ code ∧ code ≤ 0xDFFF) ∨ 0x10FFFF < code then none
      else return (Char.ofNat code, n + 1)
    | none => (escapeChar? c).map (·, 1)

/-- The rest of a quoted scalar after what was read so far, its last character first. -/
def quoted? (single : Bool) (s : Lexer) (read : List Char) : Nat → Option Lexer
  | 0 => none
  | bound + 1 =>
    if s.column = 0 ∧ atDocumentMark s.rest then none
    else
      match s.rest with
      | [] => none
      | c :: cs =>
        if single ∧ c = '\'' ∧ cs.head? = some '\'' then
          quoted? single (s.advance 2) ('\'' :: read) bound
        else if c = (if single then '\'' else '"') then
          some ((s.advance 1).emit (.scalar (String.ofList read.reverse) false))
        else if !single ∧ c = '\\' then
          if cs.head?.any isBreak then do
            let s := (s.advance 1).newLine
            let (f, s) ← fold? 0 s { first := some [] } bound
            quoted? single s (f.chars.reverse ++ read) bound
          else do
            let (e, n) ← escape? cs
            quoted? single (s.advance (n + 1)) (e :: read) bound
        else if isGap c ∨ isBreak c then do
          let (f, s) ← fold? 0 s {} bound
          quoted? single s (f.chars.reverse ++ read) bound
        else quoted? single (s.advance 1) (c :: read) bound

/-! ### Block scalars -/

/-- What happens to the line breaks at the end of a block scalar. -/
inductive Chomp where
  | strip
  | clip
  | keep
  deriving DecidableEq

/-- The chomping and indentation marks of a block scalar's header, in either order. -/
def blockHeader? (cs : List Char) : Option (Chomp × Option Nat × Nat) :=
  let chomp (c : Char) : Option Chomp :=
    if c = '+' then some .keep else if c = '-' then some .strip else none
  let digit (c : Char) : Option Nat :=
    if '1' ≤ c ∧ c ≤ '9' then some (c.toNat - '0'.toNat) else none
  match cs with
  | c :: cs =>
    match chomp c, digit c with
    | some m, _ =>
      match cs.head?.bind digit with
      | some d => some (m, some d, 2)
      | none => if cs.head? = some '0' then none else some (m, none, 1)
    | none, some d =>
      match cs.head?.bind chomp with
      | some m => some (m, some d, 2)
      | none => some (.clip, some d, 1)
    | none, none => if c = '0' then none else some (.clip, none, 0)
  | [] => some (.clip, none, 0)

/-- The empty lines before the next line of a block scalar: their breaks, and the deepest column
of blanks seen.  A known indentation stops the skipping of spaces. -/
def blockBreaks? (indent : Option Nat) (s : Lexer) (breaks : List Char) (deepest : Nat) :
    Nat → Option (List Char × Nat × Lexer)
  | 0 => none
  | bound + 1 =>
    let inside (s : Lexer) : Bool := indent.all (s.column < ·)
    match s.rest with
    | c :: _ =>
      if inside s ∧ c = ' ' then
        blockBreaks? indent (s.advance 1) breaks (max deepest (s.column + 1)) bound
      else if inside s ∧ c = '\t' then none
      else if isBreak c then
        blockBreaks? indent s.newLine (breaks ++ (takeBreak s.rest).1) deepest bound
      else some (breaks, max deepest s.column, s)
    | [] => some (breaks, max deepest s.column, s)

/-- The lines of a block scalar.  `lead` is the break that ended the last line, `breaks` the empty
lines after it, and `leadGap` whether the last line started with a gap. -/
def blockLines? (literal : Bool) (chomp : Chomp) (indent : Nat) (s : Lexer)
    (read lead breaks : List Char) (leadGap : Bool) : Nat → Option Lexer
  | 0 => none
  | bound + 1 => do
    if s.column = indent ∧ !s.rest.isEmpty then
      let gap := s.rest.head?.any isGap
      let folded : List Char :=
        if !literal ∧ lead = ['\n'] ∧ !leadGap ∧ !gap then
          if breaks.isEmpty then [' '] else []
        else lead
      let line := s.rest.takeWhile (!isBreak ·)
      let s := s.advance line.length
      let read := read ++ folded ++ breaks ++ line
      let lead := (takeBreak s.rest).1
      let s := if s.rest.isEmpty then s else s.newLine
      let (breaks, _, s) ← blockBreaks? (some indent) s [] 0 (2 * s.rest.length + 2)
      blockLines? literal chomp indent s read lead breaks gap bound
    else
      let tail := match chomp with
        | .strip => []
        | .clip => lead
        | .keep => lead ++ breaks
      return s.emit (.scalar (String.ofList (read ++ tail)) false)

/-- A block scalar after its `|` or `>`. -/
def block? (literal : Bool) (s : Lexer) : Option Lexer := do
  let (chomp, increment, length) ← blockHeader? s.rest
  let s := s.advance length
  let s := s.advance (s.rest.takeWhile isGap).length
  let s := if s.rest.head? = some '#' then s.advance (s.rest.takeWhile (!isBreak ·)).length else s
  if s.rest.head?.any (!isBreak ·) then none
  let s := if s.rest.isEmpty then s else s.newLine
  let known := increment.map fun n => if 0 ≤ s.indent then s.indent.toNat + n else n
  let (breaks, deepest, s) ← blockBreaks? known s [] 0 (2 * s.rest.length + 2)
  let indent := known.getD (max (max deepest (s.indent + 1).toNat) 1)
  blockLines? literal chomp indent s [] [] breaks false (s.rest.length + 2)

/-! ### Tokens -/

/-- The characters of names. -/
def isNameChar (c : Char) : Bool := c.isAlphanum || c == '_' || c == '-'

/-- An anchor or alias after its mark. -/
def anchor? (s : Lexer) (make : String → Token) : Option Lexer :=
  let s := s.advance 1
  let name := s.rest.takeWhile isNameChar
  let after := s.rest.drop name.length
  if name.isEmpty then none
  else if atGap after ∨ after.head?.any (['?', ':', ',', ']', '}', '%', '@', '`'].contains ·) then
    some ((s.advance name.length).emit (make (String.ofList name)))
  else none

/-- The marks that may occur in a tag. -/
def isTagChar (c : Char) : Bool :=
  isNameChar c || [';', '/', '?', ':', '@', '&', '=', '+', '$', '.', '!', '~', '*', '\'', '(',
    ')', '%'].contains c

/-- The characters of a tag that is written out. -/
def isFullTagChar (c : Char) : Bool := isTagChar c || [',', '[', ']'].contains c

/-- The length of an encoded character, which its first octet tells. -/
def encodedLength? (lead : Nat) : Option Nat :=
  if lead < 0x80 then some 1
  else if lead < 0xC0 then none
  else if lead < 0xE0 then some 2
  else if lead < 0xF0 then some 3
  else if lead < 0xF8 then some 4
  else none

/-- The given number of escaped octets, each of which has to continue an encoded character. -/
def moreOctets? : Nat → List Char → Option (Octets × List Char)
  | 0, cs => some ([], cs)
  | n + 1, '%' :: high :: low :: cs => do
    let octet := 16 * (← hexValue? high) + (← hexValue? low)
    if octet < 0x80 ∨ 0xC0 ≤ octet then none
    let (octets, cs) ← moreOctets? n cs
    return (octet.toUInt8 :: octets, cs)
  | _, _ => none

/-- The escaped octets of one encoded character. -/
def tagEscape? : List Char → Option (Octets × List Char)
  | '%' :: high :: low :: cs => do
    let lead := 16 * (← hexValue? high) + (← hexValue? low)
    let (octets, cs) ← moreOctets? ((← encodedLength? lead) - 1) cs
    return (lead.toUInt8 :: octets, cs)
  | _ => none

/-- The octets of a tag's text, and what follows it. -/
def tagText? (allowed : Char → Bool) (cs : List Char) : Nat → Option (Octets × List Char)
  | 0 => none
  | bound + 1 =>
    match cs with
    | [] => some ([], [])
    | c :: rest =>
      if c = '%' then do
        let (octets, rest) ← tagEscape? cs
        let (more, rest) ← tagText? allowed rest bound
        return (octets ++ more, rest)
      else if allowed c then do
        let (more, rest) ← tagText? allowed rest bound
        return (c.toNat.toUInt8 :: more, rest)
      else some ([], cs)

/-- The octets of a tag up to the first null, which ends it. -/
def untilNull (octets : Octets) : Octets := octets.takeWhile (· != 0)

/-- The handle at the start of a tag: two exclamation marks with a name between them, which may be
empty. -/
def tagHandle? : List Char → Option (List Char × List Char)
  | '!' :: cs =>
    match cs.dropWhile isNameChar with
    | '!' :: rest => some ('!' :: cs.takeWhile isNameChar ++ ['!'], rest)
    | _ => none
  | _ => none

/-- The handle and suffix of a tag, and what follows it. -/
def tagParts? (cs : List Char) : Option (List Char × Octets × List Char) :=
  match cs with
  | '!' :: '<' :: cs => do
    let (octets, rest) ← tagText? isFullTagChar cs (cs.length + 1)
    let '>' :: rest := rest | none
    if octets.isEmpty then none else return ([], untilNull octets, rest)
  | '!' :: rest =>
    match tagHandle? cs with
    | some (handle, rest) => do
      let (octets, rest) ← tagText? isTagChar rest (rest.length + 1)
      if octets.isEmpty then none else return (handle, untilNull octets, rest)
    | none => do
      let (octets, rest) ← tagText? isTagChar rest (rest.length + 1)
      match untilNull octets with
      | [] => return ([], [0x21], rest)
      | suffix => return (['!'], suffix, rest)
  | _ => none

/-- A tag. -/
def tag? (s : Lexer) : Option Lexer := do
  let (handle, suffix, rest) ← tagParts? s.rest
  if atGap rest ∨ (s.inFlow ∧ rest.head? = some ',') then
    return (s.advance (s.rest.length - rest.length)).emit (.tag (String.ofList handle) suffix)
  else none

/-- A decimal number of up to nine digits, and what follows it. -/
def versionNumber? (cs : List Char) : Option (Nat × List Char) :=
  let digits := cs.takeWhile Char.isDigit
  if digits.isEmpty ∨ 9 < digits.length then none
  else
    some (digits.foldl (fun n c => 10 * n + (c.toNat - '0'.toNat)) 0, cs.dropWhile Char.isDigit)

/-- A directive after its percent sign: its token, and what follows it on the line. -/
def directive? (cs : List Char) : Option (Token × List Char) :=
  let name := cs.takeWhile isNameChar
  let arguments := cs.dropWhile isNameChar
  if !atGap arguments then none
  else if name = "YAML".toList then do
    let (major, rest) ← versionNumber? (arguments.dropWhile isGap)
    let '.' :: rest := rest | none
    let (minor, rest) ← versionNumber? rest
    return (.version major minor, rest)
  else if name = "TAG".toList then do
    let arguments := arguments.dropWhile isGap
    let (handle, rest) ← match tagHandle? arguments, arguments with
      | some found, _ => some found
      | none, '!' :: rest => some (['!'], rest)
      | none, _ => none
    if !rest.head?.any isGap then none
    let rest := rest.dropWhile isGap
    let (meaning, rest) ← tagText? isFullTagChar rest (rest.length + 1)
    if meaning.isEmpty ∨ !atGap rest then none
    return (.tagHandle (String.ofList handle) (untilNull meaning), rest)
  else none

/-- A directive, which has a line of its own. -/
def directiveLine? (s : Lexer) : Option Lexer := do
  let (t, rest) ← directive? (s.rest.drop 1)
  let after := rest.dropWhile isGap
  if after.head?.any (fun c => c ≠ '#' ∧ !isBreak c) then none
  let length := (s.rest.takeWhile (!isBreak ·)).length
  return (s.advance length).emit t

/-- A document mark. -/
def document? (s : Lexer) (t : Token) : Option Lexer := do
  let s ← (s.unroll (-1)).dropKey?
  return { (s.advance 3).emit t with keyAllowed := false }

/-- The start of a flow collection. -/
def flowStart? (s : Lexer) (t : Token) : Option Lexer := do
  let s ← s.saveKey?
  return { (s.advance 1).emit t with
    keyAllowed := true, pending := none, outerPending := s.pending :: s.outerPending }

/-- The end of a flow collection. -/
def flowEnd? (s : Lexer) (t : Token) : Option Lexer := do
  let s ← s.dropKey?
  let s := { (s.advance 1).emit t with keyAllowed := false }
  match s.outerPending with
  | [] => return s
  | pending :: outer => return { s with pending, outerPending := outer }

/-- A comma of a flow collection. -/
def flowEntry? (s : Lexer) : Option Lexer := do
  let s ← s.dropKey?
  return { (s.advance 1).emit .flowEntry with keyAllowed := true }

/-- The dash of a sequence. -/
def blockEntry? (s : Lexer) : Option Lexer := do
  if !s.inFlow ∧ !s.keyAllowed then none
  let s ← (s.openBlock s.column s.count .blockSequenceStart).dropKey?
  return { (s.advance 1).emit .blockEntry with keyAllowed := true }

/-- The question mark before a key. -/
def key? (s : Lexer) : Option Lexer := do
  if !s.inFlow ∧ !s.keyAllowed then none
  let s ← (s.openBlock s.column s.count .blockMappingStart).dropKey?
  return { (s.advance 1).emit .key with keyAllowed := !s.inFlow }

/-- The colon before a value. -/
def value? (s : Lexer) : Option Lexer :=
  match s.pending with
  | some k =>
    let s := { s.emitAt k.place .key with pending := none }
    some { ((s.openBlock k.column k.place .blockMappingStart).advance 1).emit .value with
      keyAllowed := false }
  | none =>
    if !s.inFlow ∧ !s.keyAllowed then none
    else
      let s := s.openBlock s.column s.count .blockMappingStart
      some { (s.advance 1).emit .value with keyAllowed := !s.inFlow }

/-- The marks that cannot start a plain scalar. -/
def isIndicator (c : Char) : Bool :=
  ['-', '?', ':', ',', '[', ']', '{', '}', '#', '&', '*', '!', '|', '>', '\'', '"', '%', '@',
    '`'].contains c

/-- The next token, which starts with the given character.  The bound exceeds the number of
characters left. -/
def token? (bound : Nat) (s : Lexer) (c : Char) (cs : List Char) : Option Lexer :=
  if s.column = 0 ∧ c = '%' then do
    let s ← (s.unroll (-1)).dropKey?
    { s with keyAllowed := false }.directiveLine?
  else if s.column = 0 ∧ startsMark ['-', '-', '-'] s.rest then s.document? .documentStart
  else if s.column = 0 ∧ startsMark ['.', '.', '.'] s.rest then s.document? .documentEnd
  else if c = '[' then s.flowStart? .flowSequenceStart
  else if c = '{' then s.flowStart? .flowMappingStart
  else if c = ']' then s.flowEnd? .flowSequenceEnd
  else if c = '}' then s.flowEnd? .flowMappingEnd
  else if c = ',' then s.flowEntry?
  else if c = '-' ∧ atGap cs then s.blockEntry?
  else if c = '?' ∧ (s.inFlow ∨ atGap cs) then s.key?
  else if c = ':' ∧ (s.inFlow ∨ atGap cs) then s.value?
  else if c = '*' then do
    let s ← s.saveKey?
    { s with keyAllowed := false }.anchor? .alias
  else if c = '&' then do
    let s ← s.saveKey?
    { s with keyAllowed := false }.anchor? .anchor
  else if c = '!' then do
    let s ← s.saveKey?
    { s with keyAllowed := false }.tag?
  else if (c = '|' ∨ c = '>') ∧ !s.inFlow then do
    let s ← s.dropKey?
    { s.advance 1 with keyAllowed := true }.block? (c == '|')
  else if c = '\'' ∨ c = '"' then do
    let s ← s.saveKey?
    { s.advance 1 with keyAllowed := false }.quoted? (c == '\'') [] bound
  else if !isIndicator c ∨ (c = '-' ∧ !atGap cs) ∨
      (!s.inFlow ∧ (c = '?' ∨ c = ':') ∧ !atGap cs) then do
    let s ← s.saveKey?
    { s with keyAllowed := false }.plain? (s.indent + 1) [] {} bound
  else none

/-- All tokens from here on. -/
def run? (s : Lexer) : Nat → Option (List Token)
  | 0 => none
  | bound + 1 => do
    let s ← (s.skip bound).dropStale?
    match s.rest with
    | [] =>
      let s ← (s.unroll (-1)).dropKey?
      return s.emitted.reverse
    | c :: cs =>
      if isGap c then none
      else
        let s ← (s.unroll s.column).token? bound c cs
        s.run? bound

end Lexer

/-- The tokens of a stream. -/
def tokenize? (text : String) : Option (List Token) :=
  let cs := text.toList
  if cs.all isAllowed then Lexer.run? { rest := cs } (cs.length + 2) else none

end MixinIndex.Yaml
