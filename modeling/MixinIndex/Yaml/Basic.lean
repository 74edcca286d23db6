import MixinIndex.Decimal.Binary64

/-!
# YAML values

The tree of a YAML document.

## Main definitions

* `Yaml`: the tree
* `Yaml.same`: whether two trees are the same key of a mapping
* `Yaml.untagged`: a value without the tags around it
* `Yaml.field?`: the value of a mapping under a text key

## Design notes

A tag is part of the tree: a tagged text is another key than the text itself.  Whoever looks for
a value of some kind looks through the tags.
-/

namespace MixinIndex

/-- The value of a floating-point scalar.  Zero has no sign here. -/
inductive Yaml.Real where
  /-- The value that is no number. -/
  | undefined
  | infinite (negative : Bool)
  | finite (negative : Bool) (magnitude : Binary64)
  deriving DecidableEq

/-- The tree of a YAML document. -/
inductive Yaml where
  | null
  | bool (value : Bool)
  | int (value : Int)
  | float (value : Yaml.Real)
  | string (text : String)
  | sequence (items : List Yaml)
  | mapping (entries : List (Yaml × Yaml))
  /-- A value under a tag of the application's own. -/
  | tagged (tag : String) (value : Yaml)
  deriving Inhabited

namespace Yaml

/-- The name of a tag, without the mark that may start it. -/
def tagName (tag : String) : String :=
  match tag.toList with
  | '!' :: c :: cs => String.ofList (c :: cs)
  | _ => tag

mutual

/-- Whether two trees are the same.  The order of a mapping's entries does not matter. -/
def same : Yaml → Yaml → Bool
  | .null, .null => true
  | .bool a, .bool b => a == b
  | .int a, .int b => a == b
  | .float a, .float b => a == b
  | .string a, .string b => a == b
  | .sequence as, .sequence bs => allSame as bs
  | .mapping as, .mapping bs => as.length == bs.length && entriesWithin as bs
  | .tagged a x, .tagged b y => tagName a == tagName b && same x y
  | _, _ => false

/-- Whether two lists of trees are the same. -/
def allSame : List Yaml → List Yaml → Bool
  | [], [] => true
  | a :: as, b :: bs => same a b && allSame as bs
  | _, _ => false

/-- Whether all entries of one list occur in another. -/
def entriesWithin : List (Yaml × Yaml) → List (Yaml × Yaml) → Bool
  | [], _ => true
  | (key, value) :: as, bs =>
    bs.any (fun b => same key b.1 && same value b.2) && entriesWithin as bs

end

/-- The value inside all tags. -/
def untagged : Yaml → Yaml
  | .tagged _ value => value.untagged
  | value => value

/-- The value under a text key that has no tag. -/
def lookup? (key : String) : List (Yaml × Yaml) → Option Yaml
  | [] => none
  | (.string k, value) :: entries => if k = key then some value else lookup? key entries
  | _ :: entries => lookup? key entries

/-- The value of a mapping under a text key. -/
def field? (key : String) (value : Yaml) : Option Yaml :=
  match value.untagged with
  | .mapping entries => lookup? key entries
  | _ => none

/-- The text of a value, if it is one. -/
def text? (value : Yaml) : Option String :=
  match value.untagged with
  | .string text => some text
  | _ => none

/-- The whole number of a value, if it is one that is not negative. -/
def nat? (value : Yaml) : Option Nat :=
  match value.untagged with
  | .int (.ofNat n) => some n
  | _ => none

end Yaml

end MixinIndex
