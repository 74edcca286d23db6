import MixinIndex.Json.Basic

/-!
# Records in JSON

How a record is read from a tree: from an object by the names of its fields, or from an array by
their order.  Unknown members are ignored, a repeated one of the known is refused.

## Main definitions

* `Json.record?`: the values of the fields, in order
* `Json.required?`, `Json.orDefault?`: one field's value
* `Json.tag?`: the one member of an object that stands for a variant
-/

namespace MixinIndex.Json

/-- The values of all members with the given key. -/
def valuesOf (key : String) (members : List (String × Json)) : List Json :=
  (members.filter (·.1 == key)).map (·.2)

/-- The value of a member that may be absent but not repeated. -/
def single? (key : String) (members : List (String × Json)) : Option (Option Json) :=
  match valuesOf key members with
  | [] => some none
  | [value] => some (some value)
  | _ => none

/-- The values of a record's fields: `none` if the tree is no such record, and an inner `none` for
a field that is not written. -/
def record? (names : List String) : Json → Option (List (Option Json))
  | .object members => names.mapM (single? · members)
  | .array items =>
    if items.length ≤ names.length then
      some (items.map some ++ List.replicate (names.length - items.length) none)
    else none
  | _ => none

/-- A field that has to be written. -/
def required? {α : Type} (decode : Json → Option α) : Option Json → Option α
  | some value => decode value
  | none => none

/-- A field that has a default. -/
def orDefault? {α : Type} (default : α) (decode : Json → Option α) : Option Json → Option α
  | some value => decode value
  | none => some default

/-- A value that may be `null`. -/
def nullable? {α : Type} (decode : Json → Option α) : Json → Option (Option α)
  | .null => some none
  | value => (decode value).map some

/-- All items of an array. -/
def list? {α : Type} (decode : Json → Option α) : Json → Option (List α)
  | .array items => items.mapM decode
  | _ => none

/-- A whole number of 64 bits with a sign. -/
def int64? : Json → Option Int
  | .int n => if n < Int.pow 2 63 then some n else none
  | _ => none

/-- A truth value. -/
def bool? : Json → Option Bool
  | .bool b => some b
  | _ => none

/-- A variant written as its name, or as an object whose one member has that name and is null. -/
def unitTag? : Json → Option String
  | .string name => some name
  | .object [(name, .null)] => some name
  | _ => none

/-- A variant with content: the one member of an object. -/
def tag? : Json → Option (String × Json)
  | .object [member] => some member
  | _ => none

end MixinIndex.Json
