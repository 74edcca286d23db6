import MixinIndex.Signature.Basic
import MixinIndex.Text.Offset

/-!
# Erasure

Two signatures denote the same type for overload resolution when their erasures agree up to the
separator between package segments.

## Main definitions

* `TypeParameter`: a generic parameter with its bounds
* `Signature.erase`: type variables replaced by their first bounds, type arguments removed
* `Signature.same`: equality up to exchanging `/` and `.`

## Design notes

A variable is looked up in the scopes in order, so the parameters of a member come before those
of its owner.  A chain of bounds is followed for `maxBoundDepth` steps; what is longer, cycles
included, erases to the root class.
-/

namespace MixinIndex

open Text

/-- A generic type parameter with its declared bounds, the first bound first. -/
structure TypeParameter where
  name : String
  bounds : List Signature
  deriving DecidableEq, Inhabited

namespace Signature

/-- The longest chain of bounds that is followed. -/
def maxBoundDepth : Nat := 8

/-- The first bound of the first parameter with the given name. -/
def firstBound? (scopes : List (List TypeParameter)) (name : List Char) : Option Signature :=
  match scopes.flatten.find? (·.name.toList == name) with
  | some parameter => parameter.bounds.head?
  | none => none

/-- The characters outside of `<…>` sections, `depth` of which are open. -/
def stripArguments (depth : Nat) : List Char → List Char
  | [] => []
  | c :: cs =>
    if c = '<' then stripArguments (depth + 1) cs
    else if c = '>' then stripArguments (depth - 1) cs
    else if depth = 0 then c :: stripArguments depth cs
    else stripArguments depth cs

/-- The array dimensions at the start of a signature. -/
def dimensions (cs : List Char) : List Char := cs.takeWhile (· == '[')

/-- A signature without its array dimensions. -/
def element (cs : List Char) : List Char := cs.dropWhile (· == '[')

theorem dimensions_append_element (cs : List Char) : dimensions cs ++ element cs = cs :=
  List.takeWhile_append_dropWhile

/-- Erase a signature, following at most `steps` bounds. -/
def eraseWithin (scopes : List (List TypeParameter)) (steps : Nat) (cs : List Char) :
    List Char :=
  dimensions cs ++
    match variableNameOf (element cs) with
    | some name =>
      match steps, firstBound? scopes name with
      | steps + 1, some bound => eraseWithin scopes steps bound.chars
      | _, _ => object.chars
    | none => if '<' ∈ element cs then stripArguments 0 (element cs) else element cs

/-- The erasure of a signature, its variables looked up in the scopes in order. -/
def erase (s : Signature) (scopes : List (List TypeParameter)) : Signature :=
  ofChars (eraseWithin scopes maxBoundDepth s.chars)

theorem stripArguments_eq_self {cs : List Char} (left : '<' ∉ cs) (right : '>' ∉ cs) :
    stripArguments 0 cs = cs := by
  induction cs with
  | nil => rfl
  | cons c cs ih => grind [stripArguments]

/-! ### Comparison -/

/-- Whether two characters are equal or are the two separators. -/
def sameChar (a b : Char) : Bool :=
  a == b || (a == '/' && b == '.') || (a == '.' && b == '/')

/-- Whether two texts agree up to separators as far as both reach. -/
def sameChars : List Char → List Char → Bool
  | a :: as, b :: bs => sameChar a b && sameChars as bs
  | _, _ => true

/-- Whether two signatures are equal up to exchanging the separators. -/
def same (a b : Signature) : Bool :=
  byteLength a.chars == byteLength b.chars && sameChars a.chars b.chars

/-- Whether two lists of signatures have one length and agree at each place. -/
def allSame : List Signature → List Signature → Bool
  | [], [] => true
  | a :: as, b :: bs => same a b && allSame as bs
  | _, _ => false

end Signature

end MixinIndex
