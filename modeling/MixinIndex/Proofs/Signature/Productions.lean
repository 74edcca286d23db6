import MixinIndex.Proofs.Signature.Bytes
import MixinIndex.Proofs.Signature.Grammar

/-!
# Productions of signatures

Every signature is made by one production of the grammar, and its first character says by which.  So
the readers that look at a signature from outside, at its first character or at its two ends, agree
with the scanner that goes through it.  Where a signature starts, at most one ends, whatever
follows.

## Main definitions

* `Signature.Derives`: a text is made by the production of a kind
* `Signature.EndsAt`: a signature stands between two offsets of a text

## Main statements

* `Signature.isSignature_iff_derives`: the signatures are the texts that are made
* `Signature.Derives.kindOf_eq`: the first character tells the production
* `Signature.IsSignature.eq_of_append_eq`: no signature is the start of another one
* `Signature.scanAt_endsAt`: the scanner finds the end of a signature, and nothing else
-/

namespace MixinIndex

open Text

namespace Signature

/-! ### Kinds of signatures -/

/-- A text is made by the production of a kind. -/
inductive Derives : Kind → List Char → Prop
  | void : Derives .void ['V']
  | base {c : Char} (isLetter : c ∈ baseLetters) : Derives .base [c]
  | reference {c : Char} {body : List Char} (isLead : c = 'L' ∨ c = 'Q') (nonempty : body ≠ [])
      (isBody : IsBody 0 body) : Derives .reference (c :: (body ++ [';']))
  | typeVariable {name : List Char} (nonempty : name ≠ [])
      (plain : ∀ c ∈ name, c ∉ [';', '<', '>', '(', ')']) :
      Derives .typeVariable ('T' :: (name ++ [';']))
  | array {kind : Kind} {component : List Char} (notVoid : kind ≠ .void)
      (derived : Derives kind component) : Derives .array ('[' :: component)

/-- The element of a signature is made by a production of its own. -/
theorem IsElement.exists_derives {element : List Char} (h : IsElement element) :
    ∃ kind, Derives kind element ∧ kind ≠ .void := by
  cases h with
  | base isLetter => exact ⟨_, .base isLetter, nofun⟩
  | reference isLead nonempty isBody => exact ⟨_, .reference isLead nonempty isBody, nofun⟩
  | typeVariable nonempty plain => exact ⟨_, .typeVariable nonempty plain, nofun⟩

/-- Dimensions in front of an element make arrays of it. -/
theorem IsElement.exists_derives_replicate {element : List Char} (h : IsElement element)
    (dims : Nat) : ∃ kind, Derives kind (List.replicate dims '[' ++ element) ∧ kind ≠ .void := by
  induction dims with
  | zero => exact h.exists_derives
  | succ dims ih =>
      obtain ⟨kind, derived, notVoid⟩ := ih
      exact ⟨.array, .array notVoid derived, nofun⟩

/-- What is made by another production than that of void is an element with dimensions in front. -/
theorem Derives.exists_element {kind : Kind} {cs : List Char} (h : Derives kind cs)
    (notVoid : kind ≠ .void) :
    ∃ dims element, IsElement element ∧ cs = List.replicate dims '[' ++ element := by
  induction h with
  | void => exact absurd rfl notVoid
  | base isLetter => exact ⟨0, _, .base isLetter, rfl⟩
  | reference isLead nonempty isBody => exact ⟨0, _, .reference isLead nonempty isBody, rfl⟩
  | typeVariable nonempty plain => exact ⟨0, _, .typeVariable nonempty plain, rfl⟩
  | array inner _ ih =>
      obtain ⟨dims, element, isElement, rfl⟩ := ih inner
      exact ⟨dims + 1, element, isElement, rfl⟩

/-- The signatures are the texts that some production makes. -/
theorem isSignature_iff_derives {cs : List Char} : IsSignature cs ↔ ∃ kind, Derives kind cs := by
  constructor
  · rintro (_ | ⟨dims, isElement⟩)
    · exact ⟨.void, .void⟩
    · obtain ⟨kind, derived, -⟩ := isElement.exists_derives_replicate dims
      exact ⟨kind, derived⟩
  · rintro ⟨kind, derived⟩
    by_cases isVoid : kind = .void
    · subst isVoid
      cases derived
      exact .void
    · obtain ⟨dims, element, isElement, rfl⟩ := derived.exists_element isVoid
      exact .array dims isElement

/-- The first character of a signature tells which production makes it. -/
theorem Derives.kindOf_eq {kind : Kind} {cs : List Char} (h : Derives kind cs) :
    kindOf cs = kind := by
  cases h with
  | void => rfl
  | base isLetter =>
      have allBase : baseLetters.all (fun c => kindOf [c] == .base) = true := by decide
      exact eq_of_beq (List.all_eq_true.1 allBase _ isLetter)
  | reference isLead => rcases isLead with rfl | rfl <;> rfl
  | typeVariable => rfl
  | array => rfl

/-- A signature is made by the production of its kind and by no other. -/
theorem IsSignature.derives_iff {cs : List Char} (h : IsSignature cs) {kind : Kind} :
    Derives kind cs ↔ kindOf cs = kind := by
  refine ⟨Derives.kindOf_eq, ?_⟩
  rintro rfl
  obtain ⟨kind, derived⟩ := isSignature_iff_derives.1 h
  rw [derived.kindOf_eq]
  exact derived

/-- A signature has the name of a type variable exactly if it is that of a type variable. -/
theorem IsSignature.variableNameOf_isSome_iff {cs : List Char} (h : IsSignature cs) :
    (variableNameOf cs).isSome = true ↔ Derives .typeVariable cs := by
  constructor
  · intro named
    obtain ⟨name, found⟩ := Option.isSome_iff_exists.1 named
    obtain ⟨-, rfl⟩ := variableNameOf_eq_some.1 found
    exact h.derives_iff.2 rfl
  · intro derived
    cases derived with
    | @typeVariable name nonempty _ =>
        exact Option.isSome_iff_exists.2 ⟨name, variableNameOf_eq_some.2 ⟨nonempty, rfl⟩⟩

/-! ### Where signatures end -/

/-- No signature is the start of another one, whatever follows them. -/
theorem IsSignature.eq_of_append_eq {word word' after after' : List Char} (h : IsSignature word)
    (h' : IsSignature word') (same : word ++ after = word' ++ after') : word = word' := by
  have scanned : scan 0 (word ++ after) = .ok (word, after) := scan_eq_ok_iff.2 ⟨h, rfl⟩
  have scanned' : scan 0 (word ++ after) = .ok (word', after') := scan_eq_ok_iff.2 ⟨h', same⟩
  rw [scanned] at scanned'
  exact congrArg Prod.fst (Except.ok.inj scanned')

/-- A signature stands between two offsets of a text. -/
def EndsAt (cs : List Char) (start last : Nat) : Prop :=
  ∃ word, slice? cs start last = some word ∧ IsSignature word

theorem endsAt_append_iff {before rest : List Char} {last : Nat} :
    EndsAt (before ++ rest) (byteLength before) last ↔
      ∃ word after, IsSignature word ∧ rest = word ++ after ∧
        last = byteLength before + byteLength word := by
  simp only [EndsAt, slice?_append_eq_some_iff]
  constructor
  · rintro ⟨word, ⟨after, split, counted⟩, isSignature⟩
    exact ⟨word, after, isSignature, split, counted⟩
  · rintro ⟨word, after, isSignature, split, counted⟩
    exact ⟨word, ⟨after, split, counted⟩, isSignature⟩

/-- Where a signature starts, at most one ends, also if another text goes on in another way behind
it. -/
theorem EndsAt.unique {cs others : List Char} {start last last' : Nat} (h : EndsAt cs start last)
    (same : slice? others start last = slice? cs start last) (h' : EndsAt others start last') :
    last' = last := by
  obtain ⟨word, found, isSignature⟩ := h
  rw [found] at same
  have boundary : IsOffset others start :=
    (isSome_slice?_iff.1 (Option.isSome_iff_exists.2 ⟨word, same⟩)).2.1
  obtain ⟨before, rest, rfl, rfl⟩ := boundary
  obtain ⟨after, split, rfl⟩ := slice?_append_eq_some_iff.1 same
  obtain ⟨word', after', isSignature', split', rfl⟩ := endsAt_append_iff.1 h'
  rw [isSignature.eq_of_append_eq isSignature' (split.symm.trans split')]

/-- From a boundary on, the scanner finds the end of a signature, and nothing else. -/
theorem run_scanAt_eq_ok_iff {cs : List Char} {start last : Nat} (boundary : IsOffset cs start) :
    (scanAt (bytes cs) start).run = some (.ok last) ↔ EndsAt cs start last := by
  obtain ⟨before, rest, rfl, rfl⟩ := boundary
  rw [scanAt_bytes, Option.some.injEq, Except.map_eq_ok_iff, endsAt_append_iff]
  simp only [Prod.exists, scan_eq_ok_iff]
  constructor
  · rintro ⟨word, after, ⟨isSignature, split⟩, counted⟩
    exact ⟨word, after, isSignature, split, counted.symm⟩
  · rintro ⟨word, after, isSignature, split, counted⟩
    exact ⟨word, after, ⟨isSignature, split⟩, counted.symm⟩

/-- The scanner of bytes finds, and refuses, what the scanner of characters does with the rest of
the text. -/
theorem run_scanAt_eq {cs rest : List Char} {start : Nat} (found : from? cs start = some rest) :
    (scanAt (bytes cs) start).run =
      some ((scan start rest).map fun p => start + byteLength p.1) := by
  obtain ⟨⟨before, _⟩, cut, rfl⟩ := Option.map_eq_some_iff.1 found
  obtain ⟨rfl, rfl⟩ := splitAt?_eq_some.1 cut
  exact scanAt_bytes before _

/-- A text that is read as one signature is made by the production of its kind, and has the name of a
type variable exactly if it is one. -/
theorem derives_of_parseText {raw : String} {s : Signature} (read : parseText raw = .ok s) :
    (∀ kind, s.kind = kind ↔ Derives kind raw.toList) ∧
      (s.variableName.isSome = true ↔ Derives .typeVariable raw.toList) := by
  rw [parseText, Except.mapError_eq_ok_iff, parse_eq_ok_iff] at read
  obtain ⟨isSignature, rfl⟩ := read
  refine ⟨fun kind => ?_, ?_⟩
  · rw [Signature.kind, chars_ofChars, isSignature.derives_iff]
  · rw [variableName, chars_ofChars, Option.isSome_map, isSignature.variableNameOf_isSome_iff]

/-- From a boundary of a text on, the scanner finds the end of a signature that stands there and
nothing else; there is no other end, whatever follows.  If the whole text is a signature, its first
character names the production that makes it, and it has the name of a type variable exactly if that
production is the one of type variables. -/
theorem scanAt_endsAt (raw : String) {start : Nat} (boundary : IsOffset raw.toList start) :
    (∀ last, (scanAt (bytes raw.toList) start).run = some (.ok last) ↔
      EndsAt raw.toList start last) ∧
    (∀ rest, from? raw.toList start = some rest →
      (scanAt (bytes raw.toList) start).run =
        some ((scan start rest).map fun p => start + byteLength p.1)) ∧
    (∀ last others last', EndsAt raw.toList start last →
      slice? others start last = slice? raw.toList start last →
        EndsAt others start last' → last' = last) ∧
    ∀ s, parseText raw = .ok s →
      (∀ kind, s.kind = kind ↔ Derives kind raw.toList) ∧
        (s.variableName.isSome = true ↔ Derives .typeVariable raw.toList) :=
  ⟨fun _ => run_scanAt_eq_ok_iff boundary, fun _ found => run_scanAt_eq found,
    fun _ _ _ ends same ends' => ends.unique same ends',
    fun _ read => derives_of_parseText read⟩

/-- The component of an array starts behind its bracket. -/
theorem scanAt_endsAt_component :
    let raw := "[Qé<TT;>;"
    IsOffset raw.toList 1 ∧ EndsAt raw.toList 1 10 ∧ Derives .array raw.toList ∧
      ¬ Derives .typeVariable raw.toList := by
  intro raw
  have boundary : IsOffset raw.toList 1 := ⟨['['], "Qé<TT;>;".toList, by decide, by decide⟩
  have read : (parseText raw).toOption = some ⟨raw⟩ := by decide +kernel
  have scanned : (scanAt (bytes raw.toList) 1).run = some (.ok 10) := by decide +kernel
  obtain ⟨ends, -, -, derives⟩ := scanAt_endsAt raw boundary
  obtain ⟨kinds, named⟩ := derives ⟨raw⟩ (Except.toOption_eq_some_iff.1 read)
  refine ⟨boundary, (ends 10).1 scanned, (kinds .array).1 (by decide), fun derived => ?_⟩
  exact absurd (named.2 derived) (by decide)

end Signature

end MixinIndex
