import Mathlib.Data.List.Forall2
import MixinIndex.Declaration.Member
import MixinIndex.Proofs.Signature.Grammar

/-!
# Separators in signatures

The segments of a class name are joined by slashes or by dots, and no part of the library that reads
or compares signatures tells the two apart.  Every fact of this file is about one quotient: texts
that become the same when dots are put for slashes.

## Main definitions

* `Signature.dotted`: a text with dots for slashes
* `Signature.Alike`: signatures that are equal up to separators
* `Signature.exchangeAt`: a text with the separators at some places exchanged

## Main statements

* `Signature.allSame_eq_true_iff`: the comparison of signatures is the equality of the quotient
* `Signature.IsSignature.of_dotted_eq`: the grammar does not tell separators apart
* `Signature.Alike.erase`: without type parameters in scope, neither does erasure
* `Member.parametersMatch_congr`: nor does the comparison of a member with expected parameters
* `Signature.same_equivalence`: what the comparison is, and what it is an equivalence for
* `Descriptor.IsWellFormed.exists_alike`: nor does the way in which a descriptor is cut

## Design notes

Dotting keeps the length of a text and every character that is no slash, so each scanner takes the
same way on a text and on the dotted text.  Being dotted to the same text is symmetric, which is why
one direction suffices where the grammar is carried over.
-/

namespace MixinIndex

open Text
open MixinIndex.TypeName (slashToDot)

namespace Signature

/-! ### Dotted texts -/

/-- A text with dots in the place of slashes. -/
def dotted (cs : List Char) : List Char := cs.map slashToDot

@[simp] theorem dotted_nil : dotted [] = [] := rfl

@[simp] theorem dotted_cons (c : Char) (cs : List Char) :
    dotted (c :: cs) = slashToDot c :: dotted cs := rfl

@[simp] theorem dotted_append (as bs : List Char) : dotted (as ++ bs) = dotted as ++ dotted bs :=
  List.map_append

theorem slashToDot_of_ne {c : Char} (notSlash : c ≠ '/') : slashToDot c = c := if_neg notSlash

/-- No other character becomes one that is no separator. -/
theorem slashToDot_eq_iff {c d : Char} (notDot : d ≠ '.') (notSlash : d ≠ '/') :
    slashToDot c = d ↔ c = d := by
  unfold slashToDot
  split_ifs with slash
  · subst slash
    exact ⟨fun same => absurd same.symm notDot, fun same => absurd same.symm notSlash⟩
  · exact Iff.rfl

@[simp] theorem slashToDot_slashToDot (c : Char) : slashToDot (slashToDot c) = slashToDot c :=
  slashToDot_of_ne (TypeName.slashToDot_ne_slash c)

@[simp] theorem dotted_dotted (cs : List Char) : dotted (dotted cs) = dotted cs := by
  simp [dotted]

theorem mem_dotted {c : Char} (notDot : c ≠ '.') (notSlash : c ≠ '/') {cs : List Char} :
    c ∈ dotted cs ↔ c ∈ cs := by
  simp only [dotted, List.mem_map, slashToDot_eq_iff notDot notSlash, exists_eq_right]

theorem dotted_eq_self {cs : List Char} (noSlash : '/' ∉ cs) : dotted cs = cs := by
  have unmoved : ∀ c ∈ cs, slashToDot c = id c := by
    intro c mem
    apply slashToDot_of_ne
    rintro rfl
    exact noSlash mem
  rw [dotted, List.map_congr_left unmoved, List.map_id]

/-- Texts that are joined by a separator are joined by dots. -/
theorem dotted_intercalate {sep : Char} (isSeparator : slashToDot sep = '.')
    (parts : List (List Char)) :
    dotted ([sep].intercalate parts) = ['.'].intercalate (parts.map dotted) := by
  induction parts with
  | nil => rfl
  | cons part parts ih =>
      cases parts with
      | nil => simp [List.intercalate]
      | cons next parts =>
          rw [List.map_cons, List.map_cons, List.intercalate_cons_cons, List.intercalate_cons_cons,
            dotted_append, dotted_append, ih, dotted_cons, isSeparator, dotted_nil, List.map_cons]

/-- A text without separators is the only one that is dotted to what it is dotted to. -/
theorem eq_of_dotted_eq {cs ds : List Char} (noSeparator : '.' ∉ cs ∧ '/' ∉ cs)
    (same : dotted ds = dotted cs) : ds = cs := by
  induction cs generalizing ds with
  | nil => simpa [dotted] using same
  | cons c cs ih =>
      obtain ⟨d, ds, rfl, head, tail⟩ := List.map_eq_cons_iff.1 same
      simp only [List.mem_cons, not_or] at noSeparator
      obtain ⟨⟨notDot, noDot⟩, notSlash, noSlash⟩ := noSeparator
      rw [slashToDot_of_ne (Ne.symm notSlash),
        slashToDot_eq_iff (Ne.symm notDot) (Ne.symm notSlash)] at head
      rw [head, ih ⟨noDot, noSlash⟩ tail]

/-! ### The comparison -/

/-- Signatures that are equal up to separators. -/
def Alike (a b : Signature) : Prop := dotted a.chars = dotted b.chars

instance (a b : Signature) : Decidable (Alike a b) :=
  inferInstanceAs (Decidable (dotted a.chars = dotted b.chars))

@[refl] theorem Alike.refl (s : Signature) : Alike s s := rfl

@[symm] theorem Alike.symm {a b : Signature} (h : Alike a b) : Alike b a := Eq.symm h

theorem sameChar_eq_true_iff {a b : Char} : sameChar a b = true ↔ slashToDot a = slashToDot b := by
  simp only [sameChar, slashToDot, Bool.or_eq_true, Bool.and_eq_true, beq_iff_eq]
  split_ifs <;> grind

theorem utf8Size_slashToDot (c : Char) : (slashToDot c).utf8Size = c.utf8Size := by
  unfold slashToDot
  split_ifs with slash
  · rw [slash]
    rfl
  · rfl

theorem utf8Size_eq_of_slashToDot_eq {a b : Char} (same : slashToDot a = slashToDot b) :
    a.utf8Size = b.utf8Size := by
  rw [← utf8Size_slashToDot a, same, utf8Size_slashToDot]

/-- Texts agree up to separators as far as both reach, and have one length in bytes: then none of
them reaches further than the other. -/
theorem sameChars_eq_true_iff {as bs : List Char} :
    byteLength as = byteLength bs ∧ sameChars as bs = true ↔ dotted as = dotted bs := by
  induction as generalizing bs with
  | nil =>
      cases bs with
      | nil => simp [sameChars]
      | cons b bs =>
          have := b.utf8Size_pos
          simp only [byteLength_nil, byteLength_cons, dotted_nil, dotted_cons, reduceCtorEq,
            iff_false, not_and]
          omega
  | cons a as ih =>
      cases bs with
      | nil =>
          have := a.utf8Size_pos
          simp only [byteLength_nil, byteLength_cons, dotted_nil, dotted_cons, reduceCtorEq,
            iff_false, not_and]
          omega
      | cons b bs =>
          simp only [sameChars, Bool.and_eq_true, sameChar_eq_true_iff, byteLength_cons,
            dotted_cons, List.cons.injEq, ← ih]
          constructor
          · rintro ⟨length, head, tail⟩
            have size := utf8Size_eq_of_slashToDot_eq head
            exact ⟨head, by omega, tail⟩
          · rintro ⟨head, length, tail⟩
            have size := utf8Size_eq_of_slashToDot_eq head
            exact ⟨by omega, head, tail⟩

theorem same_eq_true_iff {a b : Signature} : same a b = true ↔ Alike a b := by
  rw [same, Bool.and_eq_true, beq_iff_eq]
  exact sameChars_eq_true_iff

/-- Lists of signatures are compared place by place. -/
theorem allSame_eq_true_iff {as bs : List Signature} :
    allSame as bs = true ↔ List.Forall₂ Alike as bs := by
  induction as generalizing bs with
  | nil => cases bs <;> simp [allSame]
  | cons a as ih =>
      cases bs with
      | nil => simp [allSame]
      | cons b bs => simp [allSame, same_eq_true_iff, ih]

theorem forall₂_alike_iff {as bs : List Signature} :
    List.Forall₂ Alike as bs ↔
      as.map (fun s => dotted s.chars) = bs.map fun s => dotted s.chars := by
  rw [← List.forall₂_eq_eq_eq, List.forall₂_map_left_iff, List.forall₂_map_right_iff]
  exact Iff.rfl

/-! ### Exchanging separators -/

/-- The other separator in the place of a separator, any other character for itself. -/
def exchange (c : Char) : Char := if c = '/' then '.' else if c = '.' then '/' else c

/-- A text with the separators at the given places exchanged. -/
def exchangeAt (places : Nat → Bool) (cs : List Char) : List Char :=
  cs.mapIdx fun i c => if places i then exchange c else c

theorem slashToDot_exchange (c : Char) : slashToDot (exchange c) = slashToDot c := by
  unfold exchange
  split_ifs with slash dot
  · rw [slash]
    rfl
  · rw [dot]
    rfl
  · rfl

/-- Exchanging separators stays inside the quotient. -/
theorem dotted_exchangeAt (places : Nat → Bool) (cs : List Char) :
    dotted (exchangeAt places cs) = dotted cs := by
  apply List.ext_getElem
  · simp [dotted, exchangeAt]
  · intro i _ _
    simp only [dotted, exchangeAt, List.getElem_map, List.getElem_mapIdx]
    split_ifs
    · exact slashToDot_exchange _
    · rfl

/-! ### Erasure -/

theorem stripArguments_dotted (depth : Nat) (cs : List Char) :
    stripArguments depth (dotted cs) = dotted (stripArguments depth cs) := by
  induction cs generalizing depth with
  | nil => rfl
  | cons c cs ih =>
      have opens : slashToDot c = '<' ↔ c = '<' := slashToDot_eq_iff (by decide) (by decide)
      have closes : slashToDot c = '>' ↔ c = '>' := slashToDot_eq_iff (by decide) (by decide)
      simp only [dotted_cons, stripArguments, opens, closes, ih]
      split_ifs <;> rfl

/-- A dotted text has as many dimensions as the text. -/
theorem isDimension_comp_slashToDot :
    ((· == '[') ∘ slashToDot : Char → Bool) = (· == '[') := by
  funext c
  rw [Bool.eq_iff_iff]
  simpa using slashToDot_eq_iff (c := c) (d := '[') (by decide) (by decide)

theorem dimensions_dotted (cs : List Char) : dimensions (dotted cs) = dotted (dimensions cs) := by
  rw [dimensions, dotted, List.takeWhile_map, isDimension_comp_slashToDot]
  rfl

theorem element_dotted (cs : List Char) : element (dotted cs) = dotted (element cs) := by
  rw [element, dotted, List.dropWhile_map, isDimension_comp_slashToDot]
  rfl

theorem variableNameOf_dotted (cs : List Char) :
    variableNameOf (dotted cs) = (variableNameOf cs).map dotted := by
  cases cs with
  | nil => rfl
  | cons c rest =>
      have isLead : slashToDot c = 'T' ↔ c = 'T' := slashToDot_eq_iff (by decide) (by decide)
      by_cases lead : c = 'T'
      · subst lead
        have isEnd : (dotted rest).getLast? = some ';' ↔ rest.getLast? = some ';' := by
          rw [dotted, List.getLast?_map, Option.map_eq_some_iff]
          simp only [slashToDot_eq_iff (d := ';') (by decide) (by decide), exists_eq_right]
        have length : (dotted rest).length = rest.length := List.length_map _
        show variableNameOf ('T' :: dotted rest) = (variableNameOf ('T' :: rest)).map dotted
        simp only [variableNameOf, isEnd, length]
        split_ifs
        · simp [dotted, List.map_dropLast]
        · rfl
      · rw [dotted_cons, variableNameOf_of_ne (mt isLead.1 lead), variableNameOf_of_ne lead]
        rfl

/-- Without type parameters in scope every variable erases to the root class. -/
theorem eraseWithin_nil (steps : Nat) (cs : List Char) :
    eraseWithin [] steps cs = dimensions cs ++
      match variableNameOf (element cs) with
      | some _ => object.chars
      | none => if '<' ∈ element cs then stripArguments 0 (element cs) else element cs := by
  cases steps <;> cases found : variableNameOf (element cs) <;>
    simp [eraseWithin, found, firstBound?]

/-- Without type parameters in scope, erasure is a function of the dotted text. -/
theorem dotted_eraseWithin_dotted (steps : Nat) (cs : List Char) :
    dotted (eraseWithin [] steps (dotted cs)) = dotted (eraseWithin [] steps cs) := by
  have opens : '<' ∈ dotted (element cs) ↔ '<' ∈ element cs := mem_dotted (by decide) (by decide)
  simp only [eraseWithin_nil, dimensions_dotted, element_dotted, variableNameOf_dotted, opens,
    stripArguments_dotted, dotted_append, dotted_dotted]
  congr 1
  cases variableNameOf (element cs) with
  | some name => rfl
  | none =>
      show dotted (if '<' ∈ element cs then _ else _) = dotted (if '<' ∈ element cs then _ else _)
      split_ifs <;> exact dotted_dotted _

theorem Alike.erase {a b : Signature} (h : Alike a b) : Alike (a.erase []) (b.erase []) := by
  unfold Alike Signature.erase
  rw [chars_ofChars, chars_ofChars, ← dotted_eraseWithin_dotted _ a.chars, h,
    dotted_eraseWithin_dotted]

/-! ### The grammar -/

theorem depthAfter?_slashToDot (depth : Nat) (c : Char) :
    depthAfter? depth (slashToDot c) = depthAfter? depth c := by
  have unmoved {d : Char} (isMark : d ∈ ['<', '>', '(', ')', ';']) :
      slashToDot c = d ↔ c = d := by
    simp only [List.mem_cons, List.not_mem_nil, or_false] at isMark
    rcases isMark with rfl | rfl | rfl | rfl | rfl <;>
      exact slashToDot_eq_iff (by decide) (by decide)
  simp only [depthAfter?, unmoved, List.mem_cons, true_or, or_true]

theorem isBody_dotted {depth : Nat} {body : List Char} :
    IsBody depth (dotted body) ↔ IsBody depth body := by
  induction body generalizing depth with
  | nil => exact Iff.rfl
  | cons c body ih => simp only [dotted_cons, isBody_cons, depthAfter?_slashToDot, ih]

/-- A text that is dotted like one between two marks stands between these marks. -/
theorem exists_of_dotted_eq {lead : Char} {body cs : List Char} (isLetter : lead.isAlpha = true)
    (same : dotted cs = dotted (lead :: (body ++ [';']))) :
    ∃ inner, cs = lead :: (inner ++ [';']) ∧ dotted inner = dotted body := by
  have isLead : lead ≠ '.' ∧ lead ≠ '/' := by
    constructor
    · rintro rfl
      exact absurd isLetter (by decide)
    · rintro rfl
      exact absurd isLetter (by decide)
  obtain ⟨c, rest, rfl, head, tail⟩ := List.map_eq_cons_iff.1 same
  rw [slashToDot_of_ne isLead.2, slashToDot_eq_iff isLead.1 isLead.2] at head
  change dotted rest = dotted (body ++ [';']) at tail
  rw [dotted_append] at tail
  obtain ⟨inner, mark, rfl, sameBody, sameMark⟩ := List.map_eq_append_iff.1 tail
  have isMark : mark = [';'] := eq_of_dotted_eq (by decide) sameMark
  exact ⟨inner, by rw [head, isMark], sameBody⟩

theorem IsElement.of_dotted_eq {cs ds : List Char} (h : IsElement cs)
    (same : dotted ds = dotted cs) : IsElement ds := by
  cases h with
  | @base c isLetter =>
      have plain : '.' ∉ [c] ∧ '/' ∉ [c] := by
        simp only [List.mem_singleton]
        constructor <;> rintro rfl <;> exact absurd isLetter (by decide)
      rw [eq_of_dotted_eq plain same]
      exact .base isLetter
  | @reference lead body isLead nonempty isBody =>
      have isLetter : lead.isAlpha = true := by rcases isLead with rfl | rfl <;> decide
      obtain ⟨inner, rfl, sameBody⟩ := exists_of_dotted_eq isLetter same
      refine .reference isLead ?_ ?_
      · rintro rfl
        exact nonempty (List.map_eq_nil_iff.1 sameBody.symm)
      · rw [← isBody_dotted, sameBody, isBody_dotted]
        exact isBody
  | @typeVariable name nonempty plain =>
      obtain ⟨inner, rfl, sameName⟩ := exists_of_dotted_eq (by decide) same
      refine .typeVariable ?_ ?_
      · rintro rfl
        exact nonempty (List.map_eq_nil_iff.1 sameName.symm)
      · intro c mem isMark
        have notSeparator : c ≠ '.' ∧ c ≠ '/' := by
          constructor <;> rintro rfl <;> exact absurd isMark (by decide)
        rw [← mem_dotted notSeparator.1 notSeparator.2, sameName,
          mem_dotted notSeparator.1 notSeparator.2] at mem
        exact plain c mem isMark

/-- A text that is equal to a signature up to separators is a signature. -/
theorem IsSignature.of_dotted_eq {cs ds : List Char} (h : IsSignature cs)
    (same : dotted ds = dotted cs) : IsSignature ds := by
  cases h with
  | void =>
      rw [eq_of_dotted_eq (by decide) same]
      exact .void
  | @array dims element isElement =>
      rw [dotted_append] at same
      obtain ⟨dimensions, rest, rfl, sameDims, sameElement⟩ := List.map_eq_append_iff.1 same
      have isDims : dimensions = List.replicate dims '[' :=
        eq_of_dotted_eq (by simp [List.mem_replicate]) sameDims
      rw [isDims]
      exact .array dims (isElement.of_dotted_eq sameElement)

theorem IsParameter.of_alike {s s' : Signature} (h : s.IsParameter) (alike : Alike s s') :
    s'.IsParameter := by
  refine ⟨h.1.of_dotted_eq alike.symm, ?_⟩
  rintro rfl
  exact h.2 (eq_void_iff.2 (eq_of_dotted_eq (by decide) alike))

theorem forall_isParameter_of_alike {signatures others : List Signature}
    (alike : List.Forall₂ Alike signatures others) (h : ∀ s ∈ signatures, s.IsParameter) :
    ∀ s ∈ others, s.IsParameter := by
  induction alike with
  | nil => exact h
  | cons head _ ih =>
      rw [List.forall_mem_cons] at h ⊢
      exact ⟨h.1.of_alike head, ih h.2⟩

end Signature

/-! ### Members -/

/-- Expected parameters are as good as others that are equal up to separators. -/
theorem Member.parametersMatch_congr {expected expected' : List Signature}
    (h : List.Forall₂ Signature.Alike expected expected') (m : Member)
    (ownerParameters : List TypeParameter) :
    m.parametersMatch ownerParameters expected = m.parametersMatch ownerParameters expected' := by
  have erased : (expected.map (·.erase [])).map (fun s => Signature.dotted s.chars) =
      (expected'.map (·.erase [])).map fun s => Signature.dotted s.chars := by
    rw [← Signature.forall₂_alike_iff, List.forall₂_map_left_iff, List.forall₂_map_right_iff]
    exact h.imp fun _ _ alike => alike.erase
  rw [Bool.eq_iff_iff]
  simp only [Member.parametersMatch, Signature.allSame_eq_true_iff, Signature.forall₂_alike_iff,
    erased]

/-- The comparison of signatures is the equality of their texts with dots for slashes.  So it is an
equivalence, and no member tells expected parameters apart that are equal under it. -/
theorem Signature.same_equivalence :
    (∀ a b : Signature, a.same b = true ↔ a.text.map slashToDot = b.text.map slashToDot) ∧
    Equivalence (fun a b : Signature => a.same b = true) ∧
    ∀ expected expected' : List Signature,
      List.Forall₂ (fun a b => a.same b = true) expected expected' →
        ∀ (m : Member) (ownerParameters : List TypeParameter),
          m.parametersMatch ownerParameters expected =
            m.parametersMatch ownerParameters expected' := by
  refine ⟨fun a b => ?_, ⟨fun a => ?_, fun {a b} same => ?_, fun {a b c} same next => ?_⟩,
    fun expected expected' same m ownerParameters => ?_⟩
  · rw [same_eq_true_iff, ← String.toList_inj, String.toList_map, String.toList_map]
    exact Iff.rfl
  · exact same_eq_true_iff.2 (Alike.refl a)
  · exact same_eq_true_iff.2 (same_eq_true_iff.1 same).symm
  · exact same_eq_true_iff.2 ((same_eq_true_iff.1 same).trans (same_eq_true_iff.1 next))
  · exact Member.parametersMatch_congr (same.imp fun _ _ same => same_eq_true_iff.1 same) m
      ownerParameters

/-- A type in two notations, with a type argument that is erased. -/
theorem Signature.same_equivalence_list :
    let slashed : Signature := ⟨"[Ljava/util/List<TT;>;"⟩
    let mixed : Signature := ⟨"[Ljava.util/List<TT;>;"⟩
    let put := Member.method ⟨"x.Box"⟩ "put" [⟨"[Ljava/util.List;"⟩] .void
    slashed ≠ mixed ∧ slashed.same mixed = true ∧ put.parametersMatch [] [mixed] = true := by
  intro slashed mixed put
  have same : slashed.same mixed = true := by decide +kernel
  have matched : put.parametersMatch [] [slashed] = true := by decide +kernel
  refine ⟨by decide, same, ?_⟩
  rw [← same_equivalence.2.2 [slashed] [mixed] (.cons same .nil) put []]
  exact matched

/-! ### Descriptors -/

namespace Descriptor

open Signature (Alike dotted ofChars)

/-- A text that is dotted to the same as a list of signatures is a list of signatures, which are
alike. -/
theorem exists_alike_of_dotted_eq {signatures : List Signature} {cs : List Char}
    (same : dotted cs = dotted (signatures.flatMap Signature.chars)) :
    ∃ others : List Signature, cs = others.flatMap Signature.chars ∧
      List.Forall₂ Alike signatures others := by
  induction signatures generalizing cs with
  | nil => exact ⟨[], List.map_eq_nil_iff.1 same, .nil⟩
  | cons s signatures ih =>
      rw [List.flatMap_cons, Signature.dotted_append] at same
      obtain ⟨first, rest, rfl, sameFirst, sameRest⟩ := List.map_eq_append_iff.1 same
      obtain ⟨others, rfl, alike⟩ := ih sameRest
      have sameHead : Alike s (ofChars first) := by
        rw [Alike, Signature.chars_ofChars]
        exact sameFirst.symm
      exact ⟨ofChars first :: others, by simp, .cons sameHead alike⟩

/-- A text that is equal to a descriptor up to separators is a descriptor, and its parameters are
equal to those of the other one up to separators. -/
theorem IsWellFormed.exists_alike {d : Descriptor} {cs : List Char} (h : d.IsWellFormed)
    (same : dotted cs = dotted d.chars) :
    ∃ other : Descriptor, other.IsWellFormed ∧ cs = other.chars ∧
      List.Forall₂ Alike d.parameters other.parameters := by
  have split : d.chars =
      ['('] ++ (d.parameters.flatMap Signature.chars ++ ([')'] ++ d.result.chars)) := rfl
  simp only [split, Signature.dotted_append] at same
  obtain ⟨opening, inner, rfl, sameOpening, sameInner⟩ := List.map_eq_append_iff.1 same
  obtain ⟨parameters, after, rfl, sameParameters, sameAfter⟩ := List.map_eq_append_iff.1 sameInner
  obtain ⟨closing, result, rfl, sameClosing, sameResult⟩ := List.map_eq_append_iff.1 sameAfter
  obtain rfl : opening = ['('] := Signature.eq_of_dotted_eq (by decide) sameOpening
  obtain rfl : closing = [')'] := Signature.eq_of_dotted_eq (by decide) sameClosing
  obtain ⟨others, rfl, alike⟩ := exists_alike_of_dotted_eq sameParameters
  refine ⟨⟨others, ofChars result⟩, ⟨?_, ?_⟩, by simp [chars], alike⟩
  · exact Signature.forall_isParameter_of_alike alike h.parameters
  · rw [Signature.chars_ofChars]
    exact h.result.of_dotted_eq sameResult

end Descriptor

end MixinIndex
