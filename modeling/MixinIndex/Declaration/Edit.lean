import MixinIndex.Declaration.Catalogue

/-!
# Editing a catalogue

A catalogue is changed by edits: a declaration is put in or taken out, or all declarations of a text
are put in.

## Main definitions

* `Catalogue.put`, `Catalogue.take`: change what is declared under one name, and say what was there
* `Catalogue.putAll`, `Catalogue.load`: put in declarations one by one, and those of a text
* `Catalogue.Edit`, `Catalogue.Edit.Answer`: the edits, and how they are answered
* `Catalogue.performAll`: edits one after the other

## Design notes

A catalogue changes while a text is loaded, and a failure takes nothing back.  That a text which is
refused has put nothing in is for `Catalogue.load` to bring about.
-/

namespace MixinIndex.Catalogue

/-- Put a declaration in place of the one of its name, and give that one back. -/
def put (d : Declaration) : StateM Catalogue (Option Declaration) :=
  modifyGet fun c => (c.find? d.name, c.insert d)

/-- Take the declaration of a name out, and give it back. -/
def take (name : TypeName) : StateM Catalogue (Option Declaration) :=
  modifyGet fun c => (c.find? name, c.erase name)

/-- Put declarations in, one after the other. -/
def putAll : List Declaration → StateM Catalogue Unit
  | [] => return
  | d :: ds => do
    discard (put d)
    putAll ds

/-- Put in all declarations of a text and count them, or fail if the text lists none. -/
def load (text : String) : OptionT (StateM Catalogue) Nat := do
  let some ds := Declaration.listOfText? text | failure
  putAll ds
  return ds.length

/-- A change that a catalogue is asked for. -/
inductive Edit where
  /-- Put a declaration in. -/
  | insert (d : Declaration)
  /-- Take the declaration of a name out. -/
  | remove (name : TypeName)
  /-- Put in the declarations of a text. -/
  | load (text : String)

namespace Edit

/-- An answer of a catalogue. -/
inductive Answer where
  /-- The declaration whose place was taken. -/
  | replaced (previous : Option Declaration)
  /-- The declaration that was taken out. -/
  | removed (previous : Option Declaration)
  /-- The number of declarations put in. -/
  | loaded (count : Nat)
  /-- The text lists no declarations. -/
  | refused

/-- Make a change and answer. -/
def perform : Edit → StateM Catalogue Answer
  | insert d => return .replaced (← put d)
  | remove name => return .removed (← take name)
  | load text => do
    match ← (Catalogue.load text).run with
    | some count => return .loaded count
    | none => return .refused

end Edit

/-- Make changes one after the other, whether or not some are refused. -/
def performAll : List Edit → StateM Catalogue (List Edit.Answer)
  | [] => return []
  | edit :: edits => do
    let answer ← edit.perform
    let answers ← performAll edits
    return answer :: answers

end MixinIndex.Catalogue
