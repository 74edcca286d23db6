import Std.Data.ExtTreeMap
import Std.Data.ExtTreeSet
import MixinIndex.Text.Blank
import MixinIndex.Text.Split

/-!
# Type names

A class is named by its dotted binary name, `com.x.Bar$Inner`, whichever of the three notations
it was written in: dotted, slashed (`com/x/Bar`), or as a field signature (`Lcom/x/Bar;`).

## Main definitions

* `TypeName`: a dotted binary name
* `TypeName.ofText`: the name written in any of the notations
* `TypeName.simpleName`, `TypeName.package`: the parts of a name
* `TypeName.internalName`, `TypeName.descriptor`: the name in the other two notations

## Design notes

`ofText` removes surrounding blanks, then one `L…;` wrapper, then turns slashes into dots, in this
order and once.  Type names are ordered by code point, like their texts.
-/

namespace MixinIndex

open Std (TransOrd TransCmp LawfulEqOrd)
open Text

/-- A class by its dotted binary name. -/
structure TypeName where
  text : String
  deriving DecidableEq, Inhabited

namespace TypeName

instance : Ord TypeName := ⟨compareOn (·.text)⟩

instance : TransOrd TypeName := inferInstanceAs (TransCmp (compareOn TypeName.text))

instance : LawfulEqOrd TypeName where
  eq_of_compare {a b} h := by
    have : compare a.text b.text = .eq := h
    cases a
    cases b
    simpa using this

/-! ### Notations -/

/-- Remove one `L…;` wrapper with something in it. -/
def unwrap : List Char → List Char
  | 'L' :: rest =>
    if 1 < rest.length ∧ rest.getLast? = some ';' then rest.dropLast else 'L' :: rest
  | cs => cs

/-- The dot for a slash, any other character for itself. -/
def slashToDot (c : Char) : Char := if c = '/' then '.' else c

/-- The slash for a dot, any other character for itself. -/
def dotToSlash (c : Char) : Char := if c = '.' then '/' else c

/-- The dotted name behind any of the notations. -/
def normalize (cs : List Char) : List Char := (unwrap (trim cs)).map slashToDot

/-- The type named by a text in any of the notations. -/
def ofText (text : String) : TypeName := ⟨String.ofList (normalize text.toList)⟩

/-- A name is empty when no text is left of it. -/
def isEmpty (name : TypeName) : Bool := name.text.isEmpty

/-- The slashed name. -/
def internalName (name : TypeName) : String := String.ofList (name.text.toList.map dotToSlash)

/-- The name as a field signature. -/
def descriptor (name : TypeName) : String := "L" ++ name.internalName ++ ";"

/-! ### Parts -/

/-- The last segment, of a nested type the part after its last `$`. -/
def simpleName (name : TypeName) : String :=
  String.ofList (afterLast '$' (afterLast '.' name.text.toList))

/-- Everything before the last dot, nothing for the default package. -/
def package (name : TypeName) : String := String.ofList (beforeLast '.' name.text.toList)

/-- A local name in a package. -/
def qualified (package localName : String) : TypeName :=
  if package.isEmpty then ofText localName else ofText (package ++ "." ++ localName)

theorem unwrap_eq_self {cs : List Char} (noSemicolon : ';' ∉ cs) : unwrap cs = cs := by
  unfold unwrap
  split
  · rename_i rest
    have notLast : rest.getLast? ≠ some ';' := by
      intro last
      exact noSemicolon (List.mem_cons_of_mem 'L' (List.mem_of_getLast? last))
    exact if_neg fun wrapped => notLast wrapped.2
  · rfl

theorem unwrap_wrapped {body : List Char} (nonempty : body ≠ []) :
    unwrap ('L' :: (body ++ [';'])) = body := by
  have : 0 < body.length := List.length_pos_iff.2 nonempty
  simp [unwrap, this]

theorem slashToDot_ne_slash (c : Char) : slashToDot c ≠ '/' := by
  unfold slashToDot
  split
  · decide
  · assumption

theorem slash_notMem_normalize (cs : List Char) : '/' ∉ normalize cs := by
  simp only [normalize, List.mem_map, not_exists, not_and]
  exact fun c _ => slashToDot_ne_slash c

end TypeName

end MixinIndex
