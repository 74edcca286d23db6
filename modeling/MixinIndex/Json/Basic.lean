import MixinIndex.Decimal.Binary64

/-!
# JSON values

The tree of a JSON text.  Objects keep their members as written, repeated keys included, since a
model may refuse a repeated member where a generic object takes the last one.  Text that is
written correctly but stands for no value is kept as `unreadable`: an unpaired surrogate, a number
beyond the doubles, a container nested too deeply.  It does no harm where nobody looks at it.

## Main definitions

* `Json`: the tree
* `Json.isReadable`: no part of the tree is `unreadable`
* `Json.canonical`: members in key order, the last of those with one key
* `Json.field?`: the member of an object with a given key
-/

namespace MixinIndex

/-- The tree of a JSON text. -/
inductive Json where
  | null
  | bool (value : Bool)
  /-- A whole number written without point, exponent or negative zero, within 64 bits. -/
  | int (value : Int)
  /-- Any other number. -/
  | float (negative : Bool) (magnitude : Binary64)
  | string (value : String)
  | array (items : List Json)
  | object (members : List (String × Json))
  | unreadable
  deriving Inhabited

namespace Json

mutual

/-- Whether every part of the tree stands for a value. -/
def isReadable : Json → Bool
  | .unreadable => false
  | .array items => allReadable items
  | .object members => membersReadable members
  | _ => true

/-- Whether all items are readable. -/
def allReadable : List Json → Bool
  | [] => true
  | item :: items => item.isReadable && allReadable items

/-- Whether the values of all members are readable. -/
def membersReadable : List (String × Json) → Bool
  | [] => true
  | (_, value) :: members => value.isReadable && membersReadable members

end

/-- Put a member at its place in a list that is sorted by key, replacing one of the same key. -/
def insertMember (key : String) (value : Json) : List (String × Json) → List (String × Json)
  | [] => [(key, value)]
  | (k, v) :: rest =>
    if key = k then (key, value) :: rest
    else if key < k then (key, value) :: (k, v) :: rest
    else (k, v) :: insertMember key value rest

mutual

/-- The same value with the members of every object sorted and their repetitions resolved. -/
def canonical : Json → Json
  | .array items => .array (canonicalItems items)
  | .object members => .object (canonicalMembers [] members)
  | value => value

/-- The canonical forms of all items. -/
def canonicalItems : List Json → List Json
  | [] => []
  | item :: items => item.canonical :: canonicalItems items

/-- Add the canonical forms of all members to a sorted list. -/
def canonicalMembers (sorted : List (String × Json)) :
    List (String × Json) → List (String × Json)
  | [] => sorted
  | (key, value) :: members =>
    canonicalMembers (insertMember key value.canonical sorted) members

end

/-- The value of the last member with the given key. -/
def lookup? (key : String) : List (String × Json) → Option Json
  | [] => none
  | (k, v) :: members =>
    match lookup? key members with
    | some value => some value
    | none => if k = key then some v else none

/-- The member of an object with the given key, the last one if it is repeated. -/
def field? (key : String) : Json → Option Json
  | .object members => lookup? key members
  | _ => none

/-- The whole number of a value, if it is one that is not negative. -/
def nat? : Json → Option Nat
  | .int (.ofNat n) => some n
  | _ => none

/-- The text of a value, if it is a string. -/
def string? : Json → Option String
  | .string s => some s
  | _ => none

/-- A list of texts as an array. -/
def ofStrings (texts : List String) : Json := .array (texts.map .string)

/-- An optional value, `null` where it is absent. -/
def ofOption {α : Type} (encode : α → Json) : Option α → Json
  | some value => encode value
  | none => .null

/-- A natural number as a value. -/
def ofNat (n : Nat) : Json := .int n

end Json

end MixinIndex
