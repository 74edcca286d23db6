import MixinIndex.Yaml.Lexer

/-!
# YAML events

The structure of a document as a flat list: scalars, references, and the starts and ends of
collections.  What a token means depends on the collections around it, so the reader of tokens
keeps a stack of what it expects.

## Main definitions

* `Yaml.Event`: the events
* `Yaml.Expected`: what may come next
* `Yaml.Expected.step?`: the events that the next tokens give under an expectation
* `Yaml.events?`: the events of the only document of a stream

## Design notes

Where a node may be left out, an empty plain scalar stands for it.  An entry of a flow sequence
that starts with a question mark is a pair of its own; if no key follows, the mark in its place
(a colon, a comma or the closing bracket) is taken for the missing key and consumed.
-/

namespace MixinIndex.Yaml

/-- The properties of a node.  Anchors are known by names of some type. -/
structure Properties (α : Type) where
  anchor : Option α := none
  tag : Option Octets := none

/-- An event. -/
inductive Event (α : Type) where
  /-- A reference to an anchored node. -/
  | alias (name : α)
  | scalar (properties : Properties α) (text : String) (plain : Bool)
  | sequenceStart (properties : Properties α)
  | sequenceEnd
  | mappingStart (properties : Properties α)
  | mappingEnd

/-- The scalar that stands for a node that is left out. -/
def Event.missing {α : Type} (properties : Properties α := {}) : Event α :=
  .scalar properties "" true

/-- What may come next.  Each expectation is met by events and by further expectations. -/
inductive Expected where
  /-- A node.  A block collection may need to be outside of flow collections, and a sequence may
  stand at the column of the keys of the mapping around it. -/
  | node (block loose : Bool)
  /-- An item of a block sequence, or its end. -/
  | blockItem
  /-- An item of a sequence at the column of a mapping's keys, or its end. -/
  | looseItem
  /-- A key of a block mapping, or its end. -/
  | blockKey
  | blockValue
  /-- An item of a flow sequence, or its end.  All but the first follow a comma. -/
  | flowItem (first : Bool)
  /-- The key of a pair that is an item of a flow sequence. -/
  | pairKey
  | pairValue
  | pairEnd
  /-- A key of a flow mapping, or its end.  All but the first follow a comma. -/
  | flowKey (first : Bool)
  | flowValue
  /-- The value of a key that has no mark. -/
  | noValue

/-! ### Properties of nodes -/

/-- What the handles of tags stand for. -/
abbrev Handles := List (String × Octets)

/-- A tag written out: what its handle stands for, and its suffix. -/
def fullTag? (handles : Handles) (handle : String) (suffix : Octets) : Option Octets :=
  if handle.isEmpty then some suffix else (handles.lookup handle).map (· ++ suffix)

/-- The properties of a node, its anchor and its tag in either order, and what follows them. -/
def properties? (handles : Handles) :
    List Token → Option (Properties String × List Token)
  | .anchor name :: .tag handle suffix :: ts => do
    return ({ anchor := name, tag := ← fullTag? handles handle suffix }, ts)
  | .anchor name :: ts => some ({ anchor := name }, ts)
  | .tag handle suffix :: .anchor name :: ts => do
    return ({ anchor := name, tag := ← fullTag? handles handle suffix }, ts)
  | .tag handle suffix :: ts => do return ({ tag := ← fullTag? handles handle suffix }, ts)
  | ts => some ({}, ts)

/-! ### Steps -/

/-- Whether the next token is one of the given ones. -/
def startsWith (marks : List Token) (ts : List Token) : Bool := ts.head?.any marks.contains

/-- The tokens after a comma, if one is due. -/
def afterComma? (first : Bool) (ts : List Token) : Option (List Token) :=
  match first, ts with
  | true, ts => some ts
  | false, .flowEntry :: ts => some ts
  | false, _ => none

namespace Expected

/-- What a step gives: events, further expectations, and the tokens that are left. -/
abbrev Step := List (Event String) × List Expected × List Token

/-- A node that is left out if one of the given tokens comes next. -/
def nodeUnless (marks : List Token) (node : Expected) (next : List Expected) (ts : List Token) :
    Step :=
  if startsWith marks ts then ([.missing], next, ts) else ([], node :: next, ts)

/-- A node.  One that has properties may be left out. -/
def nodeStep? (handles : Handles) (block loose : Bool) : List Token → Option Step
  | .alias name :: ts => some ([.alias name], [], ts)
  | ts => do
    let (p, ts) ← properties? handles ts
    let missing : Option Step :=
      if p.anchor.isNone && p.tag.isNone then none else some ([.missing p], [], ts)
    match ts with
    | .scalar text plain :: ts => return ([.scalar p text plain], [], ts)
    | .flowSequenceStart :: ts => return ([.sequenceStart p], [.flowItem true], ts)
    | .flowMappingStart :: ts => return ([.mappingStart p], [.flowKey true], ts)
    | .blockEntry :: _ => if loose then return ([.sequenceStart p], [.looseItem], ts) else missing
    | .blockSequenceStart :: rest =>
      if block then return ([.sequenceStart p], [.blockItem], rest) else missing
    | .blockMappingStart :: rest =>
      if block then return ([.mappingStart p], [.blockKey], rest) else missing
    | _ => missing

/-- The next events under an expectation. -/
def step? (handles : Handles) : Expected → List Token → Option Step
  | node block loose, ts => nodeStep? handles block loose ts
  | blockItem, .blockEntry :: ts =>
    some (nodeUnless [.blockEntry, .blockEnd] (node true false) [blockItem] ts)
  | blockItem, .blockEnd :: ts => some ([.sequenceEnd], [], ts)
  | blockItem, _ => none
  | looseItem, .blockEntry :: ts =>
    some (nodeUnless [.blockEntry, .key, .value, .blockEnd] (node true false) [looseItem] ts)
  | looseItem, ts => some ([.sequenceEnd], [], ts)
  | blockKey, .key :: ts =>
    some (nodeUnless [.key, .value, .blockEnd] (node true true) [blockValue] ts)
  | blockKey, .blockEnd :: ts => some ([.mappingEnd], [], ts)
  | blockKey, _ => none
  | blockValue, .value :: ts =>
    some (nodeUnless [.key, .value, .blockEnd] (node true true) [blockKey] ts)
  | blockValue, ts => some ([.missing], [blockKey], ts)
  | flowItem _, .flowSequenceEnd :: ts => some ([.sequenceEnd], [], ts)
  | flowItem first, ts => do
    match ← afterComma? first ts with
    | .key :: ts => return ([.mappingStart {}], [pairKey, flowItem false], ts)
    | .flowSequenceEnd :: ts => return ([.sequenceEnd], [], ts)
    | ts => return ([], [node false false, flowItem false], ts)
  | pairKey, ts =>
    if startsWith [.value, .flowEntry, .flowSequenceEnd] ts then
      some ([.missing], [pairValue], ts.drop 1)
    else some ([], [node false false, pairValue], ts)
  | pairValue, .value :: ts =>
    some (nodeUnless [.flowEntry, .flowSequenceEnd] (node false false) [pairEnd] ts)
  | pairValue, ts => some ([.missing], [pairEnd], ts)
  | pairEnd, ts => some ([.mappingEnd], [], ts)
  | flowKey _, .flowMappingEnd :: ts => some ([.mappingEnd], [], ts)
  | flowKey first, ts => do
    match ← afterComma? first ts with
    | .key :: ts =>
      return nodeUnless [.value, .flowEntry, .flowMappingEnd] (node false false) [flowValue] ts
    | .flowMappingEnd :: ts => return ([.mappingEnd], [], ts)
    | ts => return ([], [node false false, noValue], ts)
  | flowValue, .value :: ts =>
    some (nodeUnless [.flowEntry, .flowMappingEnd] (node false false) [flowKey false] ts)
  | flowValue, ts => some ([.missing], [flowKey false], ts)
  | noValue, ts => some ([.missing], [flowKey false], ts)

/-- Meet a stack of expectations, the next one on top.  The events found are kept with the last
one first.  At most three steps in a row consume no token. -/
def run? (handles : Handles) (found : List (Event String)) (stack : List Expected)
    (ts : List Token) : Nat → Option (List (Event String) × List Token)
  | 0 => none
  | bound + 1 =>
    match stack with
    | [] => some (found.reverse, ts)
    | expected :: stack => do
      let (events, more, ts) ← expected.step? handles ts
      run? handles (events.reverse ++ found) (more ++ stack) ts bound

end Expected

/-! ### Documents -/

/-- Skip the marks that end documents. -/
def skipEnds (ts : List Token) : List Token := ts.dropWhile (· == .documentEnd)

/-- The handles that need no directive. -/
def defaultHandles : Handles := [("!", [0x21]), ("!!", "tag:yaml.org,2002:".toUTF8.toList)]

/-- The directives before a document: what they say about handles, and the tokens after them.
Neither a version nor a handle may be given twice. -/
def directives? (versioned : Bool) (handles : Handles) :
    List Token → Option (Handles × List Token)
  | .version major minor :: ts =>
    if versioned ∨ major ≠ 1 ∨ (minor ≠ 1 ∧ minor ≠ 2) then none
    else directives? true handles ts
  | .tagHandle handle meaning :: ts =>
    if (handles.lookup handle).isSome then none
    else directives? versioned ((handle, meaning) :: handles) ts
  | ts => some (handles, ts)

/-- The events of a document's content, after which nothing but its end may follow. -/
def content? (handles : Handles) (ts : List Token) : Option (List (Event String)) := do
  let (events, rest) ←
    Expected.run? (handles ++ defaultHandles) [] [.node true false] ts (4 * ts.length + 4)
  if (skipEnds rest).isEmpty then return events else none

/-- The events of the only document of a stream, none at all if the stream is empty.  The content
may be missing after a mark that starts the document. -/
def events? (ts : List Token) : Option (List (Event String)) := do
  let (handles, rest) ← directives? false [] ts
  match rest with
  | .documentStart :: rest =>
    if (skipEnds rest).isEmpty then return [.missing] else content? handles rest
  | [] => if ts.isEmpty then return [] else none
  | rest => if rest.length < ts.length then none else content? handles rest

end MixinIndex.Yaml
