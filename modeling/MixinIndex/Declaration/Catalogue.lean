import MixinIndex.Declaration.Json

/-!
# The declaration catalogue

The declared types of a project by name.  Declarations are adopted when they are inserted, so
that every member found here has an owner and every field is one.

## Main definitions

* `Catalogue`: declared types by name
* `Catalogue.insert`, `Catalogue.erase`, `Catalogue.find?`: one declaration
* `Catalogue.load?`: all declarations of a text, or nothing at all
-/

namespace MixinIndex

/-- Declared types by name. -/
structure Catalogue where
  types : Std.ExtTreeMap TypeName Declaration := ∅

namespace Catalogue

/-- The catalogue without declarations. -/
def empty : Catalogue := {}

/-- The declaration of a name. -/
def find? (c : Catalogue) (name : TypeName) : Option Declaration := c.types[name]?

/-- Whether a name is declared. -/
def contains (c : Catalogue) (name : TypeName) : Bool := (c.find? name).isSome

/-- Adopt a declaration and put it in place of the one of its name. -/
def insert (c : Catalogue) (d : Declaration) : Catalogue := ⟨c.types.insert d.name d.adopt⟩

/-- Remove the declaration of a name. -/
def erase (c : Catalogue) (name : TypeName) : Catalogue := ⟨c.types.erase name⟩

/-- Insert declarations in order. -/
def insertAll (c : Catalogue) (ds : List Declaration) : Catalogue := ds.foldl insert c

/-- Insert all declarations of a text and say how many there were; `none` if it holds none. -/
def load? (c : Catalogue) (text : String) : Option (Nat × Catalogue) :=
  (Declaration.listOfText? text).map fun ds => (ds.length, c.insertAll ds)

/-- The number of declared types. -/
def size (c : Catalogue) : Nat := c.types.size

/-- The declared names in order. -/
def names (c : Catalogue) : List TypeName := c.types.keys

@[simp] theorem find?_empty (name : TypeName) : empty.find? name = none := by
  simp [find?, empty]

theorem find?_insert (c : Catalogue) (d : Declaration) (name : TypeName) :
    (c.insert d).find? name = if d.name = name then some d.adopt else c.find? name := by
  simp [find?, insert, Std.ExtTreeMap.getElem?_insert]

theorem find?_erase (c : Catalogue) (name k : TypeName) :
    (c.erase name).find? k = if name = k then none else c.find? k := by
  simp [find?, erase, Std.ExtTreeMap.getElem?_erase]

end Catalogue

end MixinIndex
