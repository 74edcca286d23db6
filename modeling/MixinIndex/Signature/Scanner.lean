import MixinIndex.Signature.Basic
import MixinIndex.Text.Offset

/-!
# Scanning signatures

A scanner for type signatures at the start of a text, and the readers for a whole signature and a
whole method descriptor built on it.

## Main definitions

* `Signature.Fault`: what can be wrong with a signature or descriptor, and `Fault.reason` its text
* `Signature.scan`: the signature at the start of a text, and what follows it
* `Signature.parse`: a text that is one signature
* `Descriptor.parse`: a text of the form `(parameters)result`

## Design notes

Faults that point at a character carry the byte offset of it from the start of the text that is
being read, so scanners take the offset of the first remaining character.
-/

namespace MixinIndex

open Text

namespace Signature

/-- What can be wrong with a signature or a descriptor. -/
inductive Fault where
  | unexpectedEnd
  | arrayOfVoid
  | unterminatedVariable
  | emptyVariable
  | malformedVariable
  | unexpected (found : Char) (offset : Nat)
  | unbalanced (offset : Nat)
  | emptyClass
  | unterminatedClass
  | trailing (offset : Nat)
  | missingParameters
  | unterminatedParameters
  | voidParameter
  deriving DecidableEq

/-- The reason given for a fault. -/
def Fault.reason : Fault → String
  | unexpectedEnd => "unexpected end of signature"
  | arrayOfVoid => "array of void"
  | unterminatedVariable => "unterminated type variable"
  | emptyVariable => "empty type variable name"
  | malformedVariable => "malformed type variable"
  | unexpected found offset =>
    "unexpected '" ++ String.singleton found ++ "' at offset " ++ toString offset
  | unbalanced offset => "unbalanced '>' at offset " ++ toString offset
  | emptyClass => "empty class name"
  | unterminatedClass => "unterminated class signature"
  | trailing offset => "trailing characters at offset " ++ toString offset
  | missingParameters => "expected '('"
  | unterminatedParameters => "unterminated parameter list"
  | voidParameter => "void parameter"

/-- The letters of the primitive types. -/
def baseLetters : List Char := ['B', 'C', 'D', 'F', 'I', 'J', 'S', 'Z']

/-! ### One signature -/

/-- The body of a class signature and its closing `;`, then the rest.  `depth` counts the open
type argument lists; `fresh` holds before the first character of the body. -/
def scanBody (depth : Nat) (fresh : Bool) (offset : Nat) :
    List Char → Except Fault (List Char × List Char)
  | [] => .error .unterminatedClass
  | c :: cs =>
    let continueAt (depth : Nat) : Except Fault (List Char × List Char) :=
      (scanBody depth false (offset + c.utf8Size) cs).map fun p => (c :: p.1, p.2)
    if c = '<' then continueAt (depth + 1)
    else if c = '>' then
      if depth = 0 then .error (.unbalanced offset) else continueAt (depth - 1)
    else if c = '(' ∨ c = ')' then .error (.unexpected c offset)
    else if c = ';' ∧ depth = 0 then
      if fresh then .error .emptyClass else .ok ([c], cs)
    else continueAt depth

/-- The name of a type variable and its closing `;`, then the rest. -/
def scanVariable (cs : List Char) : Except Fault (List Char × List Char) :=
  match splitFirst? ';' cs with
  | none => .error .unterminatedVariable
  | some (name, rest) =>
    if name = [] then .error .emptyVariable
    else if name.any (['<', '>', '(', ')'].contains ·) then .error .malformedVariable
    else .ok (name ++ [';'], rest)

/-- The element type of an array, or a type that is none, then the rest. -/
def scanElement (isArray : Bool) (offset : Nat) :
    List Char → Except Fault (List Char × List Char)
  | [] => .error .unexpectedEnd
  | c :: cs =>
    if c ∈ baseLetters then .ok ([c], cs)
    else if c = 'V' then if isArray then .error .arrayOfVoid else .ok ([c], cs)
    else if c = 'L' ∨ c = 'Q' then
      (scanBody 0 true (offset + 1) cs).map fun p => (c :: p.1, p.2)
    else if c = 'T' then (scanVariable cs).map fun p => (c :: p.1, p.2)
    else .error (.unexpected (leadByte c) offset)

/-- The signature at the start of a text whose first character stands at `offset`, and the rest. -/
def scan (offset : Nat) (cs : List Char) : Except Fault (List Char × List Char) :=
  let dims := cs.takeWhile (· == '[')
  (scanElement (!dims.isEmpty) (offset + dims.length) (cs.dropWhile (· == '['))).map
    fun p => (dims ++ p.1, p.2)

theorem scanBody_append {depth : Nat} {fresh : Bool} {offset : Nat} {cs lexeme rest : List Char}
    (h : scanBody depth fresh offset cs = .ok (lexeme, rest)) :
    cs = lexeme ++ rest ∧ lexeme ≠ [] := by
  induction cs generalizing depth fresh offset lexeme with
  | nil => simp [scanBody] at h
  | cons c cs ih =>
    have step {depth : Nat} (h : (scanBody depth false (offset + c.utf8Size) cs).map
        (fun p => (c :: p.1, p.2)) = .ok (lexeme, rest)) :
        c :: cs = lexeme ++ rest ∧ lexeme ≠ [] := by
      cases hs : scanBody depth false (offset + c.utf8Size) cs with
      | error f => simp [hs, Except.map] at h
      | ok p =>
        simp only [hs, Except.map, Except.ok.injEq, Prod.mk.injEq] at h
        obtain ⟨rfl, rfl⟩ := h
        simp [(ih hs).1]
    simp only [scanBody] at h
    split at h
    · exact step h
    · split at h
      · split at h
        · simp at h
        · exact step h
      · split at h
        · simp at h
        · split at h
          · split at h
            · simp at h
            · cases h
              simp
          · exact step h

theorem scanVariable_append {cs lexeme rest : List Char}
    (h : scanVariable cs = .ok (lexeme, rest)) : cs = lexeme ++ rest ∧ lexeme ≠ [] := by
  unfold scanVariable at h
  split at h
  · simp at h
  · rename_i name after hs
    have := (splitFirst?_eq_some.1 hs).1
    split at h
    · simp at h
    · split at h
      · simp at h
      · cases h
        simp [this]

theorem scanElement_append {isArray : Bool} {offset : Nat} {cs lexeme rest : List Char}
    (h : scanElement isArray offset cs = .ok (lexeme, rest)) :
    cs = lexeme ++ rest ∧ lexeme ≠ [] := by
  cases cs with
  | nil => simp [scanElement] at h
  | cons c cs =>
    simp only [scanElement] at h
    split at h
    · cases h
      simp
    · split at h
      · split at h
        · simp at h
        · cases h
          simp
      · split at h
        · cases hs : scanBody 0 true (offset + 1) cs with
          | error f => simp [hs, Except.map] at h
          | ok p =>
            simp only [hs, Except.map, Except.ok.injEq, Prod.mk.injEq] at h
            obtain ⟨rfl, rfl⟩ := h
            simp [(scanBody_append hs).1]
        · split at h
          · cases hs : scanVariable cs with
            | error f => simp [hs, Except.map] at h
            | ok p =>
              simp only [hs, Except.map, Except.ok.injEq, Prod.mk.injEq] at h
              obtain ⟨rfl, rfl⟩ := h
              simp [(scanVariable_append hs).1]
          · simp at h

/-- A scanned signature and the rest make up the text, and the signature is not empty. -/
theorem scan_append {offset : Nat} {cs lexeme rest : List Char}
    (h : scan offset cs = .ok (lexeme, rest)) : cs = lexeme ++ rest ∧ lexeme ≠ [] := by
  unfold scan at h
  cases hs : scanElement (!(cs.takeWhile (· == '[')).isEmpty)
      (offset + (cs.takeWhile (· == '[')).length) (cs.dropWhile (· == '[')) with
  | error f => simp [hs, Except.map] at h
  | ok p =>
    simp only [hs, Except.map, Except.ok.injEq, Prod.mk.injEq] at h
    obtain ⟨rfl, rfl⟩ := h
    obtain ⟨heq, hne⟩ := scanElement_append hs
    constructor
    · rw [List.append_assoc, ← heq, List.takeWhile_append_dropWhile]
    · simp [hne]

theorem scan_length {offset : Nat} {cs lexeme rest : List Char}
    (h : scan offset cs = .ok (lexeme, rest)) : rest.length < cs.length := by
  obtain ⟨rfl, hne⟩ := scan_append h
  have := List.length_pos_iff.2 hne
  simp
  omega

/-- The signature that makes up a whole text. -/
def parse (cs : List Char) : Except Fault Signature :=
  match scan 0 cs with
  | .error fault => .error fault
  | .ok (lexeme, []) => .ok (ofChars lexeme)
  | .ok (lexeme, _ :: _) => .error (.trailing (byteLength lexeme))

end Signature

/-! ### Method descriptors -/

namespace Descriptor

open Signature (Fault scan)

/-- The signatures up to the closing parenthesis, which is consumed; then the offset of what
follows it, and the rest. -/
def scanParameters (offset : Nat) (cs : List Char) :
    Except Fault (List Signature × Nat × List Char) :=
  match cs with
  | [] => .error .unterminatedParameters
  | ')' :: rest => .ok ([], offset + 1, rest)
  | c :: rest =>
    match h : scan offset (c :: rest) with
    | .error fault => .error fault
    | .ok (lexeme, after) =>
      if lexeme = ['V'] then .error .voidParameter
      else
        have := Signature.scan_length h
        (scanParameters (offset + byteLength lexeme) after).map
          fun p => (Signature.ofChars lexeme :: p.1, p.2)
termination_by cs.length
decreasing_by assumption

/-- The descriptor that makes up a whole text. -/
def parse (cs : List Char) : Except Fault Descriptor :=
  match cs with
  | '(' :: cs =>
    match scanParameters 1 cs with
    | .error fault => .error fault
    | .ok (parameters, offset, rest) =>
      match scan offset rest with
      | .error fault => .error fault
      | .ok (result, []) => .ok ⟨parameters, Signature.ofChars result⟩
      | .ok (result, _ :: _) => .error (.trailing (offset + byteLength result))
  | _ => .error .missingParameters

end Descriptor

/-- A text that was read as a signature or a descriptor and is none. -/
structure DescriptorError where
  raw : String
  fault : Signature.Fault
  deriving DecidableEq

/-- The report of a malformed signature or descriptor. -/
def DescriptorError.message (e : DescriptorError) : String :=
  "Invalid descriptor '" ++ e.raw ++ "': " ++ e.fault.reason

/-- Read a signature, naming the text in the error. -/
def Signature.parseText (raw : String) : Except DescriptorError Signature :=
  (Signature.parse raw.toList).mapError (⟨raw, ·⟩)

/-- Read a method descriptor, naming the text in the error. -/
def Descriptor.parseText (raw : String) : Except DescriptorError Descriptor :=
  (Descriptor.parse raw.toList).mapError (⟨raw, ·⟩)

end MixinIndex
