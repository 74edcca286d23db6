import MixinIndex.Quantifier
import MixinIndex.Signature.Scanner

/-!
# Target specifiers

A specifier selects members of a target type:

```text
func_1234_a                      the first member of that name
func_1234_a{,3}                  up to three of them
*(III)Z                          every member that takes three ints
<init>(Ljava/lang/String;)V      a constructor
Lfoo/bar/Baz;func_1234_a(DDD)V   a member of a given owner
foo.bar.Baz.func_1234_a(DDD)V    the same
```

## Main definitions

* `Specifier`: owner, name, descriptor and quantifier, with the text they were read from
* `Specifier.exact`: the specifier of one name and descriptor
* `Specifier.appliesTo`: whether the owner, if there is one, is the given type
* `Specifier.Fault`, `SyntaxError`: what can be wrong with a text that should be a specifier
-/

namespace MixinIndex

/-- The name under which constructors are declared. -/
def constructorName : String := "<init>"

/-- The name of a static initializer. -/
def staticInitializerName : String := "<clinit>"

/-- A query that selects members of a target type.  An absent name stands for any name and an
absent descriptor for any parameters. -/
structure Specifier where
  owner : Option TypeName
  name : Option String
  descriptor : Option Descriptor
  quantifier : Quantifier
  raw : String
  deriving DecidableEq

namespace Specifier

/-- The specifier of exactly one name and descriptor. -/
def exact (name : String) (parameters : List Signature) (result : Signature) : Specifier where
  owner := none
  name := some name
  descriptor := some ⟨parameters, result⟩
  quantifier := .implicit
  raw := name ++ Descriptor.text ⟨parameters, result⟩

/-- Whether the specifier asks for constructors. -/
def targetsConstructor (spec : Specifier) : Bool := spec.name == some constructorName

/-- A specifier with an owner applies to that type only. -/
def appliesTo (spec : Specifier) (target : TypeName) : Bool :=
  spec.owner.all (· == target)

@[simp] theorem appliesTo_exact (name : String) (parameters : List Signature) (result : Signature)
    (target : TypeName) : (exact name parameters result).appliesTo target = true := rfl

/-- What can be wrong with the text of a specifier. -/
inductive Fault where
  | emptyOwnerSegment
  | unexpectedInOwner (found : Char)
  | unexpectedSemicolon
  | emptyOwner
  | twoOwners
  | specialName
  | unterminatedQuantifier
  | quantifier (fault : Quantifier.Fault)
  | unexpected (found : Char)
  | descriptor (fault : Signature.Fault)
  deriving DecidableEq

/-- The reason given for a fault. -/
def Fault.reason : Fault → String
  | emptyOwnerSegment => "empty owner segment"
  | unexpectedInOwner found => "unexpected '" ++ String.singleton found ++ "' in owner"
  | unexpectedSemicolon => "unexpected ';'"
  | emptyOwner => "empty owner"
  | twoOwners => "owner given in both dotted and L...; form"
  | specialName => "only <init> and <clinit> may use '<'"
  | unterminatedQuantifier => "unterminated quantifier"
  | quantifier fault => fault.reason
  | unexpected found => "unexpected '" ++ String.singleton found ++ "'"
  | descriptor fault => fault.reason

end Specifier

/-- A text that was read as a specifier or quantifier and is none, with the offset of the fault. -/
structure SyntaxError where
  raw : String
  position : Nat
  fault : Specifier.Fault
  deriving DecidableEq

/-- The report of a malformed specifier. -/
def SyntaxError.message (e : SyntaxError) : String :=
  "Invalid target specifier '" ++ e.raw ++ "' at offset " ++ toString e.position ++ ": " ++
    e.fault.reason

/-- Read a quantifier's token, naming it in the error. -/
def Quantifier.parseText (token : String) : Except SyntaxError Quantifier :=
  (Quantifier.parse token.toList).mapError fun e => ⟨token, e.1, .quantifier e.2⟩

end MixinIndex
