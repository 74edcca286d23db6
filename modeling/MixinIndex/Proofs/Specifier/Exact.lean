import MixinIndex.Proofs.Specifier.Grammar

/-!
# Written forms

Descriptors and exact specifiers are read back from their written forms.  No separator stands
between the parameters of a descriptor; each signature ends where it ends whatever follows it, and
so the concatenation can be taken apart in one way only.

## Main definitions

* `Descriptor.IsAccepted`: the parts of a descriptor are accepted on their own
* `Specifier.IsMemberName`: the names that an exact specifier can ask for

## Main statements

* `Descriptor.parseText_iff`: reading descriptors is inverse to writing them
* `Specifier.parseText_append`: a name and a descriptor are read as the exact specifier of both
* `Specifier.parseText_exact`: both round trips
-/

namespace MixinIndex

/-- Parameters and result of a descriptor are accepted on their own, and no parameter is void. -/
structure Descriptor.IsAccepted (d : Descriptor) : Prop where
  parameters : ∀ s ∈ d.parameters, Signature.parseText s.text = .ok s ∧ s ≠ .void
  result : Signature.parseText d.result.text = .ok d.result

namespace Descriptor

instance (d : Descriptor) : Decidable d.IsAccepted :=
  decidable_of_iff ((∀ s ∈ d.parameters, Signature.parseText s.text = .ok s ∧ s ≠ .void) ∧
    Signature.parseText d.result.text = .ok d.result) ⟨fun h => ⟨h.1, h.2⟩, fun h => ⟨h.1, h.2⟩⟩

theorem isAccepted_iff {d : Descriptor} : d.IsAccepted ↔ d.IsWellFormed := by
  constructor
  · intro accepted
    refine ⟨fun s mem => ?_, Signature.parseText_text_eq_ok_iff.1 accepted.result⟩
    obtain ⟨read, notVoid⟩ := accepted.parameters s mem
    exact ⟨Signature.parseText_text_eq_ok_iff.1 read, notVoid⟩
  · intro wellFormed
    refine ⟨fun s mem => ?_, Signature.parseText_text_eq_ok_iff.2 wellFormed.result⟩
    obtain ⟨isSignature, notVoid⟩ := wellFormed.parameters s mem
    exact ⟨Signature.parseText_text_eq_ok_iff.2 isSignature, notVoid⟩

/-- A text is read as a descriptor exactly if it is the written form of one with accepted parts. -/
theorem parseText_iff {raw : String} {d : Descriptor} :
    parseText raw = .ok d ↔ d.IsAccepted ∧ d.text = raw := by
  rw [parseText, Except.mapError_eq_ok_iff, parse_eq_ok_iff, isAccepted_iff]
  apply and_congr_right
  intro _
  rw [← toList_text, String.toList_inj]
  exact eq_comm

end Descriptor

namespace Specifier

/-- A name that an exact specifier can ask for. -/
def IsMemberName (name : String) : Prop :=
  name = constructorName ∨ name = staticInitializerName ∨ IsIdentifier name.toList

instance (name : String) : Decidable (IsMemberName name) :=
  inferInstanceAs (Decidable (_ ∨ _ ∨ _))

theorem IsMemberName.isName {name : String} (h : IsMemberName name) :
    IsName name.toList (some name) := by
  rcases h with rfl | rfl | isIdentifier
  · exact .constructor
  · exact .staticInitializer
  · simpa using IsName.identifier isIdentifier

/-- A name with a descriptor behind it is read as the exact specifier of both. -/
theorem parseText_append {name : String} {d : Descriptor} (named : IsMemberName name)
    (accepted : d.IsAccepted) :
    parseText (name ++ d.text) = .ok (exact name d.parameters d.result) := by
  rw [parseText, Except.mapError_eq_ok_iff, parse_eq_ok_iff]
  let pieces : Pieces := ⟨[], name.toList, [], d.chars⟩
  refine ⟨pieces, ?_, .absent, named.isName, .absent, ?_, rfl⟩
  · simp [pieces]
  · exact .present (Descriptor.isAccepted_iff.1 accepted)

/-- Descriptors and exact specifiers are read back from their written forms.  A text is read as a
descriptor exactly if it is the concatenation of its parts, each of which is accepted on its own;
and what is written for a name and a descriptor is read as the specifier of exactly these. -/
theorem parseText_exact :
    (∀ (raw : String) (d : Descriptor),
        Descriptor.parseText raw = .ok d ↔ d.IsAccepted ∧ d.text = raw) ∧
      ∀ (name : String) (d : Descriptor), IsMemberName name → d.IsAccepted →
        parseText (exact name d.parameters d.result).raw =
          .ok (exact name d.parameters d.result) := by
  constructor
  · intro raw d
    exact Descriptor.parseText_iff
  · intro name d named accepted
    exact parseText_append named accepted

/-- Arrays of variables and nested type arguments, with nothing between the parameters. -/
theorem parseText_exact_put :
    let d : Descriptor := ⟨[⟨"[[TKey;"⟩, ⟨"Ljava/util/Map<TKey;[Lx/Box<+TV;>;>;"⟩, ⟨"I"⟩], ⟨"V"⟩⟩
    Descriptor.parseText "([[TKey;Ljava/util/Map<TKey;[Lx/Box<+TV;>;>;I)V" = .ok d ∧
      parseText "put([[TKey;Ljava/util/Map<TKey;[Lx/Box<+TV;>;>;I)V" =
        .ok (exact "put" d.parameters d.result) := by
  intro d
  have accepted : d.IsAccepted := by decide
  have written : (exact "put" d.parameters d.result).raw =
      "put([[TKey;Ljava/util/Map<TKey;[Lx/Box<+TV;>;>;I)V" := by decide
  refine ⟨(parseText_exact.1 _ d).2 ⟨accepted, by decide⟩, ?_⟩
  rw [← written]
  exact parseText_exact.2 "put" d (by decide) accepted

end Specifier

end MixinIndex
