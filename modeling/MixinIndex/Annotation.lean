import MixinIndex.TypeName

/-!
# Annotations

The annotations of declared types and members: a type name as written, and values under keys.

## Main definitions

* `Annotation.Value`: a text, type, number, truth value, or an array of values
* `Annotation.string?`, `Annotation.strings?`, `Annotation.type?`, `Annotation.types?`: typed
  look-up, `none` where the key is absent or the value of another sort
* `Annotation.isNamed`: whether an annotation is the one of a given qualified name
* `findAnnotation?`: the first annotation of a qualified name
-/

namespace MixinIndex

open Text

namespace Annotation

/-- A value of an annotation. -/
inductive Value where
  | string (text : String)
  | type (name : TypeName)
  | int (value : Int)
  | bool (value : Bool)
  | array (items : List Value)
  deriving Inhabited

namespace Value

/-- The text of a value that is one. -/
def string? : Value → Option String
  | string text => some text
  | _ => none

/-- The type of a value that names one. -/
def type? : Value → Option TypeName
  | type name => some name
  | _ => none

/-- The items of an array; any other value is an array of itself. -/
def items : Value → List Value
  | array items => items
  | value => [value]

end Value

end Annotation

/-- An annotation: its type as written, qualified or simple, and its values. -/
structure Annotation where
  typeName : String
  values : Std.ExtTreeMap String Annotation.Value := ∅

namespace Annotation

/-- Set a value, replacing the one under its key. -/
def withValue (a : Annotation) (key : String) (value : Value) : Annotation :=
  { a with values := a.values.insert key value }

/-- Set a text. -/
def withString (a : Annotation) (key text : String) : Annotation :=
  a.withValue key (.string text)

/-- Set an array of texts. -/
def withStrings (a : Annotation) (key : String) (texts : List String) : Annotation :=
  a.withValue key (.array (texts.map .string))

/-- Set a type, named in any notation. -/
def withType (a : Annotation) (key name : String) : Annotation :=
  a.withValue key (.type (.ofText name))

/-- The text under a key. -/
def string? (a : Annotation) (key : String) : Option String := a.values[key]?.bind Value.string?

/-- The texts under a key; values of another sort are left out, one text counts as a list. -/
def strings? (a : Annotation) (key : String) : Option (List String) :=
  a.values[key]?.map fun value => value.items.filterMap Value.string?

/-- The type under a key. -/
def type? (a : Annotation) (key : String) : Option TypeName := a.values[key]?.bind Value.type?

/-- The types under a key; values of another sort are left out, one type counts as a list. -/
def types? (a : Annotation) (key : String) : Option (List TypeName) :=
  a.values[key]?.map fun value => value.items.filterMap Value.type?

/-- What follows the last dot of a qualified name. -/
def simpleNameOf (qualified : String) : String :=
  String.ofList (afterLast '.' qualified.toList)

/-- Whether an annotation is written with the given qualified name or its simple name. -/
def isNamed (a : Annotation) (qualified : String) : Bool :=
  a.typeName == qualified || a.typeName == simpleNameOf qualified

theorem strings?_withString (a : Annotation) (key text : String) :
    (a.withString key text).strings? key = some [text] := by
  simp [strings?, withString, withValue, Value.items, Value.string?]

end Annotation

/-- The first annotation of a qualified name. -/
def findAnnotation? (annotations : List Annotation) (qualified : String) : Option Annotation :=
  annotations.find? (·.isNamed qualified)

end MixinIndex
