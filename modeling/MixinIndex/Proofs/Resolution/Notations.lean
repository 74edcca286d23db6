import MixinIndex.Proofs.Resolution.Selection
import MixinIndex.Proofs.Signature.Separators
import MixinIndex.Proofs.Specifier.Exact

/-!
# Notations that do not matter

One type is named in two notations, with dots or with slashes, and a specifier may use either of
them for its owner and in its descriptor.  Both choices are invisible: the specifiers that are read
select the same members of every type.

## Main definitions

* `Specifier.dottedNotation`, `Specifier.wrappedNotation`: an owner in front of a text, written
  `a.b.` and `La/b;`
* `Specifier.AreSegments`: what an owner is made of
* `Specifier.withParenthesis`: a text cut at a parenthesis

## Main statements

* `Specifier.parseText_ownedBy`: a text without an owner may be given one
* `Specifier.resolve_notations`: the two notations of an owner are interchangeable
* `Specifier.exists_selectsAs_of_dotted_eq`: a descriptor may be written with other separators
* `Specifier.resolve_exchangeAt`: the separators in a descriptor may be exchanged at any places

## Design notes

The two notations of an owner take different ways through the reader, so both are compared with the
text behind them, which is read without an owner.  In a descriptor the reader takes the same way for
both separators, and the specifiers are compared through the quotient of `dotted` texts.
-/

namespace MixinIndex.Specifier

open Text
open Signature (Alike dotted exchangeAt)

/-! ### Owners -/

/-- A text with an owner in front of it, as dotted segments. -/
def dottedNotation (segments : List String) (tail : String) : String :=
  ".".intercalate segments ++ "." ++ tail

/-- A text with an owner in front of it, as slashed segments between `L` and `;`. -/
def wrappedNotation (segments : List String) (tail : String) : String :=
  "L" ++ "/".intercalate segments ++ ";" ++ tail

/-- Segments of an owner: names without blanks, and at least one. -/
structure AreSegments (segments : List String) : Prop where
  nonempty : segments ≠ []
  identifiers : ∀ segment ∈ segments, IsIdentifier segment.toList
  noBlank : ∀ segment ∈ segments, ∀ c ∈ segment.toList, isBlank c = false

instance (segments : List String) : Decidable (AreSegments segments) :=
  decidable_of_iff (segments ≠ [] ∧ ∀ segment ∈ segments, IsIdentifier segment.toList ∧
      segment.toList.all (fun c => !isBlank c) = true) <| by
    simp only [List.all_eq_true, Bool.not_eq_true', forall_and]
    exact ⟨fun h => ⟨h.1, h.2.1, h.2.2⟩, fun h => ⟨h.1, h.2, h.3⟩⟩

/-- A text that is read without an owner is read with each owner that is put in front of it. -/
theorem parseText_ownedBy {piece : List Char} {owner : TypeName}
    (isOwner : IsOwner piece (some owner)) {tail : String} {spec : Specifier}
    (read : parseText tail = .ok spec) (unowned : spec.owner = none) :
    parseText (String.ofList (piece ++ tail.toList)) =
      .ok { spec with owner := some owner, raw := String.ofList (piece ++ tail.toList) } := by
  rw [parseText, Except.mapError_eq_ok_iff, parse_eq_ok_iff] at read ⊢
  obtain ⟨p, spells⟩ := read
  have noOwner : p.owner = [] := by
    have isAbsent := spells.owner
    rw [unowned] at isAbsent
    generalize p.owner = written at isAbsent
    cases isAbsent
    rfl
  refine ⟨{ p with owner := piece }, ?_, isOwner, spells.name, spells.quantifier,
    spells.descriptor, rfl⟩
  simp [spells.text, noOwner]

/-- Between the separators stand name characters only. -/
theorem AreSegments.mem {segments : List String} (h : AreSegments segments) {sep c : Char}
    (mem : c ∈ [sep].intercalate (segments.map String.toList)) :
    c = sep ∨ isNameChar c = true ∧ isBlank c = false := by
  rcases mem_intercalate mem with same | ⟨_, among, within⟩
  · exact .inl same
  · obtain ⟨segment, isSegment, rfl⟩ := List.mem_map.1 among
    exact .inr ⟨(h.identifiers segment isSegment).2 c within, h.noBlank segment isSegment c within⟩

theorem AreSegments.isBlank_eq_false {segments : List String} (h : AreSegments segments)
    {sep : Char} (notBlank : isBlank sep = false) :
    ∀ c ∈ [sep].intercalate (segments.map String.toList), isBlank c = false := by
  intro c mem
  rcases h.mem mem with rfl | ⟨-, notBlank⟩
  · exact notBlank
  · exact notBlank

theorem AreSegments.intercalate_ne_nil {segments : List String} (h : AreSegments segments)
    (sep : Char) : [sep].intercalate (segments.map String.toList) ≠ [] := by
  obtain ⟨first, others, rfl⟩ := List.exists_cons_of_ne_nil h.nonempty
  have nonempty : first.toList ≠ [] := (h.identifiers first List.mem_cons_self).1
  cases others <;> simp [List.intercalate, nonempty]

/-- With either separator the segments become the dotted name. -/
theorem AreSegments.dotted_intercalate {segments : List String} (h : AreSegments segments)
    {sep : Char} (isSeparator : TypeName.slashToDot sep = '.') :
    dotted ([sep].intercalate (segments.map String.toList)) =
      ['.'].intercalate (segments.map String.toList) := by
  rw [Signature.dotted_intercalate isSeparator, List.map_map]
  congr 1
  apply List.map_congr_left
  intro segment isSegment
  apply Signature.dotted_eq_self
  intro mem
  exact absurd ((h.identifiers segment isSegment).2 '/' mem) (by decide)

theorem ofText_dotted {segments : List String} (h : AreSegments segments) :
    TypeName.ofText (".".intercalate segments) = ⟨".".intercalate segments⟩ := by
  have chars : (".".intercalate segments).toList =
      ['.'].intercalate (segments.map String.toList) := String.toList_intercalate
  have noBlank : ∀ c ∈ ['.'].intercalate (segments.map String.toList), isBlank c = false :=
    h.isBlank_eq_false (by decide)
  have noSemicolon : ';' ∉ ['.'].intercalate (segments.map String.toList) := by
    intro mem
    rcases h.mem mem with same | ⟨isName, -⟩
    · exact absurd same (by decide)
    · exact absurd isName (by decide)
  have normal : TypeName.normalize (".".intercalate segments).toList =
      (".".intercalate segments).toList := by
    rw [chars, TypeName.normalize, trim_eq_self noBlank, TypeName.unwrap_eq_self noSemicolon]
    exact h.dotted_intercalate rfl
  rw [TypeName.ofText, normal, String.ofList_toList]

theorem ofText_wrapped {segments : List String} (h : AreSegments segments) :
    TypeName.ofText ("L" ++ "/".intercalate segments ++ ";") = ⟨".".intercalate segments⟩ := by
  have chars : ("L" ++ "/".intercalate segments ++ ";").toList =
      'L' :: (['/'].intercalate (segments.map String.toList) ++ [';']) := by simp
  have noBlank : ∀ c ∈ 'L' :: (['/'].intercalate (segments.map String.toList) ++ [';']),
      isBlank c = false := by
    intro c mem
    rcases List.mem_cons.1 mem with rfl | mem
    · decide
    · rcases List.mem_append.1 mem with mem | mem
      · exact h.isBlank_eq_false (by decide) c mem
      · obtain rfl := List.mem_singleton.1 mem
        decide
  have normal : TypeName.normalize ("L" ++ "/".intercalate segments ++ ";").toList =
      (".".intercalate segments).toList := by
    rw [chars, TypeName.normalize, trim_eq_self noBlank,
      TypeName.unwrap_wrapped (h.intercalate_ne_nil '/'), String.toList_intercalate]
    exact h.dotted_intercalate rfl
  rw [TypeName.ofText, normal, String.ofList_toList]

theorem isOwner_dotted {segments : List String} (h : AreSegments segments) :
    IsOwner ((".".intercalate segments).toList ++ ['.']) (some ⟨".".intercalate segments⟩) := by
  have isDotted : IsDotted (".".intercalate segments).toList :=
    ⟨segments.map String.toList, by simpa using h.nonempty, by simpa using h.identifiers, by simp⟩
  have isOwner := IsOwner.dotted isDotted
  rwa [String.ofList_toList, ofText_dotted h] at isOwner

theorem isOwner_wrapped {segments : List String} (h : AreSegments segments) :
    IsOwner ("L" ++ "/".intercalate segments ++ ";").toList (some ⟨".".intercalate segments⟩) := by
  have isWrapped : IsWrapped ("L" ++ "/".intercalate segments ++ ";").toList := by
    refine ⟨['/'].intercalate (segments.map String.toList), h.intercalate_ne_nil '/', ?_, by simp⟩
    intro c mem
    rcases h.mem mem with same | ⟨isName, -⟩
    · exact .inr same
    · exact .inl isName
  have isOwner := IsOwner.wrapped isWrapped
  rwa [String.ofList_toList, ofText_wrapped h] at isOwner

/-- The two notations of an owner are interchangeable. -/
theorem resolve_notations (segments : List String) (isOwner : AreSegments segments) (tail : String)
    (spec : Specifier) (read : parseText tail = .ok spec) (unowned : spec.owner = none) :
    let owner : TypeName := ⟨".".intercalate segments⟩
    let byDots := { spec with owner := some owner, raw := dottedNotation segments tail }
    let byWrapping := { spec with owner := some owner, raw := wrappedNotation segments tail }
    parseText (dottedNotation segments tail) = .ok byDots ∧
      parseText (wrappedNotation segments tail) = .ok byWrapping ∧
      ∀ (target : Declaration) (candidates : List Member),
        (target.resolve byDots candidates).Agrees (target.resolve byWrapping candidates) := by
  intro owner byDots byWrapping
  have readDots := parseText_ownedBy (isOwner_dotted isOwner) read unowned
  have readWrapping := parseText_ownedBy (isOwner_wrapped isOwner) read unowned
  have dots : String.ofList ((".".intercalate segments).toList ++ ['.'] ++ tail.toList) =
      dottedNotation segments tail := by
    rw [String.ofList_append, String.ofList_append, String.ofList_toList, String.ofList_toList]
    rfl
  have wrapping : String.ofList (("L" ++ "/".intercalate segments ++ ";").toList ++ tail.toList) =
      wrappedNotation segments tail := by
    rw [String.ofList_append, String.ofList_toList, String.ofList_toList]
    rfl
  rw [dots] at readDots
  rw [wrapping] at readWrapping
  have selects : byDots.SelectsAs byWrapping := ⟨rfl, rfl, rfl, rfl, fun _ _ => rfl⟩
  exact ⟨readDots, readWrapping, Declaration.resolve_agrees selects⟩

/-- An owner in front of a name with dots, slashes and semicolons in its descriptor. -/
theorem resolve_notations_put :
    let spec := exact "put" [⟨"Lx/Box<Ly.Z;>;"⟩, ⟨"[TKey;"⟩] .void
    AreSegments ["foo", "Bar"] ∧ parseText "put(Lx/Box<Ly.Z;>;[TKey;)V" = .ok spec ∧
      parseText "foo.Bar.put(Lx/Box<Ly.Z;>;[TKey;)V" =
        .ok { spec with
          owner := some ⟨"foo.Bar"⟩, raw := "foo.Bar.put(Lx/Box<Ly.Z;>;[TKey;)V" } ∧
      parseText "Lfoo/Bar;put(Lx/Box<Ly.Z;>;[TKey;)V" =
        .ok { spec with
          owner := some ⟨"foo.Bar"⟩, raw := "Lfoo/Bar;put(Lx/Box<Ly.Z;>;[TKey;)V" } := by
  intro spec
  have isOwner : AreSegments ["foo", "Bar"] := by decide
  have read : parseText "put(Lx/Box<Ly.Z;>;[TKey;)V" = .ok spec := by
    have written : spec.raw = "put(Lx/Box<Ly.Z;>;[TKey;)V" := by decide
    rw [← written]
    exact parseText_append (by decide) (by decide)
  obtain ⟨byDots, byWrapping, -⟩ := resolve_notations ["foo", "Bar"] isOwner _ spec read rfl
  exact ⟨isOwner, read, byDots, byWrapping⟩

/-! ### Separators in descriptors -/

/-- A text that goes on with a parenthesis. -/
def withParenthesis (before after : List Char) : String := String.ofList (before ++ '(' :: after)

@[simp] theorem toList_withParenthesis (before after : List Char) :
    (withParenthesis before after).toList = before ++ '(' :: after :=
  String.toList_ofList

/-- The reader cuts the text at the parenthesis if it is the first one. -/
theorem span_withParenthesis {before : List Char} (isFirst : '(' ∉ before) (after : List Char) :
    (withParenthesis before after).toList.takeWhile (· != '(') = before ∧
      (withParenthesis before after).toList.dropWhile (· != '(') = '(' :: after := by
  rw [toList_withParenthesis]
  exact span_ne isFirst (by simp)

/-- Specifiers are read from both of two texts that are equal up to separators behind the first
parenthesis, or from none of them, and the specifiers agree. -/
theorem exists_selectsAs_of_dotted_eq {before after after' : List Char} (isFirst : '(' ∉ before)
    (same : dotted after' = dotted after) {spec : Specifier}
    (read : parseText (withParenthesis before after) = .ok spec) :
    ∃ spec', parseText (withParenthesis before after') = .ok spec' ∧
      spec.SelectsAs spec' := by
  rw [parseText, Except.mapError_eq_ok_iff, parse_eq_ok_iff] at read
  obtain ⟨p, spells⟩ := read
  obtain ⟨taken, left⟩ := spells.span
  -- Owner, name and quantifier are pieces of what stands before the parenthesis.
  obtain ⟨isTaken, isLeft⟩ := span_withParenthesis isFirst after
  rw [isTaken] at taken
  rw [isLeft] at left
  have isDescriptor := spells.descriptor
  rw [← left] at isDescriptor
  obtain ⟨d, described, wellFormed, written⟩ := isDescriptor.exists_of_ne_nil (List.cons_ne_nil _ _)
  have samePiece : dotted ('(' :: after') = dotted d.chars := by
    rw [← written, Signature.dotted_cons, Signature.dotted_cons, same]
  obtain ⟨other, otherWellFormed, isOther, alike⟩ := wellFormed.exists_alike samePiece
  let raw := withParenthesis before after'
  refine ⟨{ spec with descriptor := some other, raw := raw }, ?_, rfl, rfl, rfl,
    by simp [described], ?_⟩
  · rw [parseText, Except.mapError_eq_ok_iff, parse_eq_ok_iff]
    refine ⟨{ p with descriptor := '(' :: after' }, ?_, spells.owner, spells.name,
      spells.quantifier, ?_, rfl⟩
    · simp [taken]
    · rw [isOther]
      exact .present otherWellFormed
  · intro target candidate
    simp only [Declaration.descriptorMatches, described,
      Member.parametersMatch_congr alike candidate target.typeParameters]

/-- The separators behind the first parenthesis may be exchanged at any places. -/
theorem resolve_exchangeAt (before after : List Char) (places : Nat → Bool)
    (isFirst : '(' ∉ before) :
    ((∃ spec, parseText (withParenthesis before after) = .ok spec) ↔
        ∃ spec', parseText (withParenthesis before (exchangeAt places after)) = .ok spec') ∧
      ∀ spec spec', parseText (withParenthesis before after) = .ok spec →
        parseText (withParenthesis before (exchangeAt places after)) = .ok spec' →
        spec.owner = spec'.owner ∧ spec.name = spec'.name ∧ spec.quantifier = spec'.quantifier ∧
          ∀ (target : Declaration) (candidates : List Member),
            (target.resolve spec candidates).Agrees (target.resolve spec' candidates) := by
  have same : dotted (exchangeAt places after) = dotted after := Signature.dotted_exchangeAt _ _
  refine ⟨⟨?_, ?_⟩, ?_⟩
  · rintro ⟨spec, read⟩
    obtain ⟨spec', read', -⟩ := exists_selectsAs_of_dotted_eq isFirst same read
    exact ⟨spec', read'⟩
  · rintro ⟨spec', read'⟩
    obtain ⟨spec, read, -⟩ := exists_selectsAs_of_dotted_eq isFirst same.symm read'
    exact ⟨spec, read⟩
  · intro spec spec' read read'
    obtain ⟨other, otherRead, selects⟩ := exists_selectsAs_of_dotted_eq isFirst same read
    obtain rfl : other = spec' := Except.ok.inj (otherRead.symm.trans read')
    exact ⟨selects.owner, selects.name, selects.quantifier, fun target candidates =>
      Declaration.resolve_agrees selects target candidates⟩

/-- The second separator of three is exchanged, between type arguments. -/
theorem resolve_exchangeAt_put :
    '(' ∉ "put".toList ∧ ∃ spec spec',
      parseText "put(Lx/Box<Ly/Z;[Lx.W;>;)V" = .ok spec ∧
      parseText "put(Lx/Box<Ly.Z;[Lx.W;>;)V" = .ok spec' ∧
      ∀ (target : Declaration) (candidates : List Member),
        (target.resolve spec candidates).Agrees (target.resolve spec' candidates) := by
  have isFirst : '(' ∉ "put".toList := by decide
  have read : parseText "put(Lx/Box<Ly/Z;[Lx.W;>;)V" =
      .ok (exact "put" [⟨"Lx/Box<Ly/Z;[Lx.W;>;"⟩] .void) := by
    have written : (exact "put" [⟨"Lx/Box<Ly/Z;[Lx.W;>;"⟩] .void).raw =
        "put(Lx/Box<Ly/Z;[Lx.W;>;)V" := by decide
    rw [← written]
    exact parseText_append (by decide) (by decide)
  have before : withParenthesis "put".toList "Lx/Box<Ly/Z;[Lx.W;>;)V".toList =
      "put(Lx/Box<Ly/Z;[Lx.W;>;)V" := by decide
  have after :
      withParenthesis "put".toList (exchangeAt (· == 9) "Lx/Box<Ly/Z;[Lx.W;>;)V".toList) =
        "put(Lx/Box<Ly.Z;[Lx.W;>;)V" := by decide
  obtain ⟨both, agree⟩ := resolve_exchangeAt "put".toList "Lx/Box<Ly/Z;[Lx.W;>;)V".toList (· == 9)
    isFirst
  rw [before, after] at both
  rw [before, after] at agree
  obtain ⟨spec', read'⟩ := both.1 ⟨_, read⟩
  exact ⟨isFirst, _, spec', read, read', (agree _ spec' read read').2.2.2⟩

end MixinIndex.Specifier
