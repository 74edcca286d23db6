import MixinIndex.TypeName

/-!
# Type signatures

A signature is a type in bytecode notation: `I`, `[J`, `Lfoo/Bar;`, `TT;`.  It is kept verbatim
and not checked; the scanner decides which texts are signatures.

## Main definitions

* `Signature`: a type in bytecode notation
* `Signature.kind`: what the leading character says about a signature
* `Signature.variableName`: the name of a type variable's signature
* `Descriptor`: parameter and return signatures of a method, with its text
-/

namespace MixinIndex

open Std (TransOrd TransCmp LawfulEqOrd)

/-- A type in bytecode notation. -/
structure Signature where
  text : String
  deriving DecidableEq, Inhabited

namespace Signature

instance : Ord Signature := ⟨compareOn (·.text)⟩

instance : TransOrd Signature := inferInstanceAs (TransCmp (compareOn Signature.text))

instance : LawfulEqOrd Signature where
  eq_of_compare {a b} h := by
    have : compare a.text b.text = .eq := h
    cases a
    cases b
    simpa using this

/-- The characters of a signature. -/
def chars (s : Signature) : List Char := s.text.toList

/-- The signature with the given characters. -/
def ofChars (cs : List Char) : Signature := ⟨String.ofList cs⟩

@[simp] theorem chars_ofChars (cs : List Char) : (ofChars cs).chars = cs := by
  simp [chars, ofChars]

@[simp] theorem ofChars_chars (s : Signature) : ofChars s.chars = s := by
  simp [chars, ofChars]

/-- The signature of a method that returns nothing. -/
def void : Signature := ⟨"V"⟩

/-- The signature of the root class, to which an unbounded type variable erases. -/
def object : Signature := ⟨"Ljava/lang/Object;"⟩

/-- What the leading character of a signature tells. -/
inductive Kind where
  | base
  | void
  | array
  | reference
  | typeVariable
  deriving DecidableEq

/-- The kind of a signature by its leading character. -/
def kindOf : List Char → Kind
  | '[' :: _ => .array
  | 'V' :: _ => .void
  | 'T' :: _ => .typeVariable
  | 'L' :: _ => .reference
  | 'Q' :: _ => .reference
  | _ => .base

/-- The kind of a signature. -/
def kind (s : Signature) : Kind := kindOf s.chars

/-- The name between a leading `T` and a closing `;`, if there is one. -/
def variableNameOf : List Char → Option (List Char)
  | 'T' :: rest =>
    if rest.getLast? = some ';' ∧ 1 < rest.length then some rest.dropLast else none
  | _ => none

/-- The name of a type variable's signature. -/
def variableName (s : Signature) : Option String := (variableNameOf s.chars).map String.ofList

theorem variableNameOf_eq_some {cs name : List Char} :
    variableNameOf cs = some name ↔ name ≠ [] ∧ cs = 'T' :: (name ++ [';']) := by
  constructor
  · intro h
    unfold variableNameOf at h
    split at h
    · rename_i rest
      simp only [Option.ite_none_right_eq_some, Option.some.injEq] at h
      obtain ⟨⟨last, long⟩, rfl⟩ := h
      obtain ⟨name, rfl⟩ := List.getLast?_eq_some_iff.1 last
      simp only [List.length_append, List.length_cons, List.length_nil] at long
      simp
      exact List.length_pos_iff.1 (by omega)
    · simp at h
  · rintro ⟨hne, rfl⟩
    have : 0 < name.length := List.length_pos_iff.2 hne
    simp [variableNameOf, this]

/-- Other letters do not lead a type variable. -/
theorem variableNameOf_of_ne {c : Char} (h : c ≠ 'T') (cs : List Char) :
    variableNameOf (c :: cs) = none := by
  unfold variableNameOf
  split
  · rename_i same
    exact absurd (List.cons.inj same).1 h
  · rfl

end Signature

/-- Parameter and return signatures of a method. -/
structure Descriptor where
  parameters : List Signature
  result : Signature
  deriving DecidableEq, Inhabited

namespace Descriptor

/-- The characters of the written form `(parameters)result`. -/
def chars (d : Descriptor) : List Char :=
  '(' :: (d.parameters.flatMap Signature.chars ++ ')' :: d.result.chars)

/-- The written form of a descriptor. -/
def text (d : Descriptor) : String := String.ofList d.chars

@[simp] theorem toList_text (d : Descriptor) : d.text.toList = d.chars := by
  simp [text]

end Descriptor

end MixinIndex
