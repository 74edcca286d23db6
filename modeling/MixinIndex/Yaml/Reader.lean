import MixinIndex.Yaml.Event
import MixinIndex.Yaml.Scalar

/-!
# Reading YAML

The tree of a stream that holds at most one document.

## Main definitions

* `Yaml.Document`: the events of a document with the places of its anchored nodes
* `Yaml.Document.node?`: the tree of the next node
* `Yaml.read?`: the tree of a text, null for an empty stream

## Design notes

An anchored node has a number, which is how many names of anchors there were before it; so an
anchor that takes over a name leaves its number to the next new name, and a number leads to the
last node that has it.  Reading a reference reads the node behind it once more, and only so many
references may be read.

A local tag becomes part of the tree.  A key that occurs twice in one mapping makes the text
unreadable.

The reader descends on the events.  Every call lowers a bound, which is larger than the deepest
nesting times the greatest number of calls for the nodes of one collection.
-/

namespace MixinIndex.Yaml

/-! ### Documents -/

/-- The events of a document that follow on one another. -/
abbrev Events := List (Event Nat)

/-- A document. -/
structure Document where
  events : Events
  /-- The anchored nodes by their numbers, the last one first: the events from there on. -/
  places : List (Nat × Events)

/-- The numbers of the names of anchors. -/
abbrev AnchorNumbers := List (String × Nat)

/-- A new number for a name; it is the same as that of an older name if the name is not new. -/
def AnchorNumbers.assign (numbers : AnchorNumbers) (name : String) : AnchorNumbers :=
  (name, numbers.length) :: numbers.filter (·.1 != name)

/-- The properties of a node with the number of its anchor, and the numbers from then on. -/
def Properties.number (numbers : AnchorNumbers) (p : Properties String) :
    Properties Nat × AnchorNumbers :=
  match p.anchor with
  | some name => ({ anchor := some numbers.length, tag := p.tag }, numbers.assign name)
  | none => ({ tag := p.tag }, numbers)

/-- An event with numbers for names; a name that is referred to needs one. -/
def Event.number? (numbers : AnchorNumbers) : Event String → Option (Event Nat × AnchorNumbers)
  | .alias name => (numbers.lookup name).map (.alias ·, numbers)
  | .scalar p text plain =>
    let (p, numbers) := p.number numbers
    some (.scalar p text plain, numbers)
  | .sequenceStart p =>
    let (p, numbers) := p.number numbers
    some (.sequenceStart p, numbers)
  | .mappingStart p =>
    let (p, numbers) := p.number numbers
    some (.mappingStart p, numbers)
  | .sequenceEnd => some (.sequenceEnd, numbers)
  | .mappingEnd => some (.mappingEnd, numbers)

/-- Events with numbers for names, in reverse order. -/
def numberAll? (numbers : AnchorNumbers) (numbered : Events) :
    List (Event String) → Option Events
  | [] => some numbered
  | event :: events => do
    let (event, numbers) ← event.number? numbers
    numberAll? numbers (event :: numbered) events

/-- The number of the anchor at an event. -/
def Event.anchor? : Event Nat → Option Nat
  | .scalar p _ _ => p.anchor
  | .sequenceStart p => p.anchor
  | .mappingStart p => p.anchor
  | _ => none

/-- The anchored nodes among events, the last one first. -/
def placesFrom (found : List (Nat × Events)) : Events → List (Nat × Events)
  | [] => found
  | event :: events =>
    placesFrom (event.anchor?.elim found fun n => (n, event :: events) :: found) events

/-- The document of the given events; names that are referred to have to be known. -/
def Document.ofEvents? (events : List (Event String)) : Option Document := do
  let events := (← numberAll? [] [] events).reverse
  return ⟨events, placesFrom [] events⟩

/-! ### Values -/

/-- The local tag that a tag is: a text after an exclamation mark, or that mark alone. -/
def localTag? : Option Octets → Option String
  | some (0x21 :: octet :: octets) => String.fromUTF8? ⟨(octet :: octets).toArray⟩
  | some [0x21] => some "!"
  | _ => none

/-- The value of a scalar under a tag.  A local tag that is no text is none at all. -/
def taggedScalar? (tag : Option Octets) (text : String) (plain : Bool) : Option Yaml :=
  match localTag? tag, tag with
  | some name, _ => (scalar? text plain).map (.tagged name)
  | none, none => scalar? text plain
  | none, some (0x21 :: _) => scalar? text plain
  | none, some octets => coreScalar? ((String.fromUTF8? ⟨octets.toArray⟩).getD "") text

/-- The deepest nesting of collections. -/
def maxDepth : Nat := 128

/-- Whether a key occurs among entries. -/
def hasKey (key : Yaml) (entries : List (Yaml × Yaml)) : Bool := entries.any (same key ·.1)

/-- The mapping with the given entries; a key must not be repeated. -/
def mapping? : List (Yaml × Yaml) → Option (List (Yaml × Yaml))
  | [] => some []
  | (key, value) :: entries =>
    if hasKey key entries then none else (mapping? entries).map ((key, value) :: ·)

namespace Document

/-- What is read: a value, the number of references read so far, and the events left. -/
abbrev Read (α : Type) := α × Nat × Events

/-- The number of references that may be read. -/
def maxReferences (d : Document) : Nat := 100 * d.events.length

/-- A value under the local tag before it, if there is one. -/
def underTag (tag : Option String) (r : Read Yaml) : Read Yaml :=
  match tag with
  | some name => (.tagged name r.1, r.2)
  | none => r

mutual

/-- The next node.  `depth` is the nesting that is still allowed and `references` the number of
those read so far. -/
def node? (d : Document) (depth references : Nat) (events : Events) : Nat → Option (Read Yaml)
  | 0 => none
  | bound + 1 =>
    match events with
    | .alias number :: events => do
      if d.maxReferences ≤ references then none
      let (value, references, _) ←
        d.node? depth (references + 1) (← d.places.lookup number) bound
      return (value, references, events)
    | .scalar p text plain :: events => do
      return (← taggedScalar? p.tag text plain, references, events)
    | .sequenceStart p :: events => do
      if depth = 0 then none
      let (items, rest) ← d.items? (depth - 1) references events bound
      return underTag (localTag? p.tag) (.sequence items, rest)
    | .mappingStart p :: events => do
      if depth = 0 then none
      let (entries, rest) ← d.entries? (depth - 1) references events bound
      return underTag (localTag? p.tag) (.mapping (← mapping? entries), rest)
    | _ => none
termination_by structural bound => bound

/-- The items of a sequence up to its end, which is consumed. -/
def items? (d : Document) (depth references : Nat) (events : Events) :
    Nat → Option (Read (List Yaml))
  | 0 => none
  | bound + 1 =>
    match events with
    | .sequenceEnd :: events => some ([], references, events)
    | events => do
      let (item, references, events) ← d.node? depth references events bound
      let (items, rest) ← d.items? depth references events bound
      return (item :: items, rest)
termination_by structural bound => bound

/-- The entries of a mapping up to its end, which is consumed. -/
def entries? (d : Document) (depth references : Nat) (events : Events) :
    Nat → Option (Read (List (Yaml × Yaml)))
  | 0 => none
  | bound + 1 =>
    match events with
    | .mappingEnd :: events => some ([], references, events)
    | events => do
      let (key, references, events) ← d.node? depth references events bound
      let (value, references, events) ← d.node? depth references events bound
      let (entries, rest) ← d.entries? depth references events bound
      return ((key, value) :: entries, rest)
termination_by structural bound => bound

end

/-- The tree of a document, null if there are no events. -/
def tree? (d : Document) : Option Yaml :=
  if d.events.isEmpty then some .null
  else
    (d.node? maxDepth 0 d.events ((maxDepth + 2) * (d.events.length + 2))).map (·.1)

end Document

/-- The tree of a text. -/
def read? (text : String) : Option Yaml := do
  let document ← Document.ofEvents? (← events? (← tokenize? text))
  document.tree?

end MixinIndex.Yaml
