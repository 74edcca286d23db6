import MixinIndex.Annotation
import MixinIndex.Signature.Scanner
import MixinIndex.Signature.Erasure
import MixinIndex.Specifier.Basic

/-!
# Members

The methods, constructors and fields of declared types.

## Main definitions

* `Member`: a member as declared
* `Member.isConstructor`, `Member.isStaticInitializer`: the special methods, by kind or by name
* `Member.parametersMatch`: whether erased parameters agree with expected signatures
* `MemberKey`: what identifies a member; ordered by type, name, descriptor and kind
-/

namespace MixinIndex

open Std (TransOrd TransCmp LawfulEqOrd LawfulEqCmp)

namespace Member

/-- What sort of member a member is. -/
inductive Kind where
  | method
  | constructor
  | staticInitializer
  | field
  deriving DecidableEq, Inhabited

namespace Kind

/-- The word for a kind. -/
def text : Kind → String
  | method => "method"
  | constructor => "constructor"
  | staticInitializer => "static_initializer"
  | field => "field"

/-- All kinds, in order. -/
def all : List Kind := [method, constructor, staticInitializer, field]

/-- The kind with a given word. -/
def ofText? (text : String) : Option Kind := all.find? (·.text == text)

/-- The place of a kind in the order. -/
def rank : Kind → Nat
  | method => 0
  | constructor => 1
  | staticInitializer => 2
  | field => 3

theorem rank_injective {a b : Kind} (h : a.rank = b.rank) : a = b := by
  cases a <;> cases b <;> simp_all [rank]

theorem ofText?_text (kind : Kind) : ofText? kind.text = some kind := by
  cases kind <;> decide

instance : Ord Kind := ⟨compareOn rank⟩

instance : TransOrd Kind := inferInstanceAs (TransCmp (compareOn rank))

instance : LawfulEqOrd Kind where
  eq_of_compare {a b} h := by
    have : compare a.rank b.rank = .eq := h
    exact rank_injective (by simpa using this)

end Kind

/-- Where a member stands in its source. -/
structure SourceRange where
  offset : Nat
  length : Nat
  deriving DecidableEq

end Member

/-- A member of a declared type.  The result of a field is its type, and it has no parameters. -/
structure Member where
  name : String
  kind : Member.Kind := .method
  parameters : List Signature := []
  result : Signature := .void
  typeParameters : List TypeParameter := []
  /-- The owner; an empty name is filled in when the owner is declared. -/
  declaringType : TypeName := ⟨""⟩
  sourceRange : Option Member.SourceRange := none
  annotations : List Annotation := []

/-- What identifies a member. -/
structure MemberKey where
  declaringType : TypeName
  name : String
  descriptor : String
  kind : Member.Kind
  deriving DecidableEq

namespace MemberKey

/-- Keys are ordered by type, then name, then descriptor, then kind. -/
def order : MemberKey → MemberKey → Ordering :=
  compareLex (compareOn (·.declaringType)) <|
    compareLex (compareOn (·.name)) <|
      compareLex (compareOn (·.descriptor)) (compareOn (·.kind))

instance : Ord MemberKey := ⟨order⟩

instance : TransOrd MemberKey := inferInstanceAs (TransCmp (compareLex _ _))

instance : LawfulEqOrd MemberKey where
  eq_of_compare {a b} h := by
    have : order a b = .eq := h
    simp only [order, compareLex_eq_eq, compareOn, LawfulEqCmp.compare_eq_iff_eq] at this
    cases a
    cases b
    simp_all

/-- The key on one line; a field's type is set off by a colon. -/
def display (key : MemberKey) : String :=
  key.declaringType.text ++ "." ++ key.name ++ (if key.kind = .field then ":" else "") ++
    key.descriptor

end MemberKey

namespace Member

/-- A method. -/
def method (declaringType : TypeName) (name : String) (parameters : List Signature)
    (result : Signature) : Member :=
  { name, parameters, result, declaringType }

/-- A constructor. -/
def constructor (declaringType : TypeName) (parameters : List Signature) : Member :=
  { method declaringType constructorName parameters .void with kind := .constructor }

/-- A field. -/
def field (declaringType : TypeName) (name : String) (type : Signature) : Member :=
  { method declaringType name [] type with kind := .field }

/-- The first annotation of a qualified name. -/
def annotation? (m : Member) (qualified : String) : Option Annotation :=
  findAnnotation? m.annotations qualified

/-- A constructor has that kind or name, or is a method named like its owner. -/
def isConstructor (m : Member) : Bool :=
  m.kind == .constructor || m.name == constructorName ||
    (m.kind != .field && !m.declaringType.isEmpty && m.name == m.declaringType.simpleName)

/-- A static initializer has that kind or name. -/
def isStaticInitializer (m : Member) : Bool :=
  m.kind == .staticInitializer || m.name == staticInitializerName

/-- The type of a field, the parameters and result of anything else. -/
def descriptor (m : Member) : String :=
  if m.kind = .field then m.result.text else Descriptor.text ⟨m.parameters, m.result⟩

/-- What identifies a member. -/
def key (m : Member) : MemberKey := ⟨m.declaringType, m.name, m.descriptor, m.kind⟩

/-- The erased parameters of a member, whose own type parameters come before its owner's. -/
def erasedParameters (m : Member) (ownerParameters : List TypeParameter) : List Signature :=
  m.parameters.map (·.erase [m.typeParameters, ownerParameters])

/-- Whether the erased parameters are the erased expected ones, one by one. -/
def parametersMatch (m : Member) (ownerParameters : List TypeParameter)
    (expected : List Signature) : Bool :=
  Signature.allSame (m.erasedParameters ownerParameters) (expected.map (·.erase []))

end Member

end MixinIndex
