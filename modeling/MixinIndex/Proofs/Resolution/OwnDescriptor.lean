import MixinIndex.Proofs.Resolution.Selection
import MixinIndex.Proofs.Signature.Erasure
import MixinIndex.Proofs.Signature.Separators
import MixinIndex.Proofs.Specifier.Exact

/-!
# Own descriptors

The name of a method with its erased descriptor is a specifier, and it selects one method of the
type: the first whose name and erased parameters are those of the method.

## Main definitions

* `Declaration.ownSpecifier`: the name of a member with its erased parameters and its result
* `Member.IsErasable`: members that have an erased descriptor
* `Declaration.SharesParameters`: methods of the same name and erased parameters

## Main statements

* `Declaration.parseText_ownSpecifier`: the text of an own specifier is read as this specifier
* `Declaration.admits_ownSpecifier_iff`: what the own specifier of a member admits
* `Declaration.resolveMethod_ownSpecifier`: the first of the methods that share both is selected

## Design notes

The descriptor of a specifier is erased again before it is compared, in no scope.  Erased parameters
are left as they are by that, so the comparison is one of two erasures.
-/

namespace MixinIndex

open Signature (Alike)

/-- A member has an erased descriptor: its parameters and the bounds in scope are erasable, and its
result is accepted. -/
structure Member.IsErasable (m : Member) (ownerParameters : List TypeParameter) : Prop where
  parameters : ∀ s ∈ m.parameters, s.IsErasable
  result : Signature.parseText m.result.text = .ok m.result
  bounds : ∀ parameter ∈ m.typeParameters ++ ownerParameters,
    ∀ bound ∈ parameter.bounds, bound.IsErasable

namespace Member

variable {m : Member} {ownerParameters : List TypeParameter}

theorem IsErasable.isErased_of_mem (h : m.IsErasable ownerParameters) {s : Signature}
    (mem : s ∈ m.erasedParameters ownerParameters) : Signature.IsErased s.chars := by
  obtain ⟨parameter, isParameter, rfl⟩ := List.mem_map.1 mem
  apply Signature.isErased_erase _ (h.parameters parameter isParameter)
  intro scope isScope typeParameter inScope
  apply h.bounds typeParameter
  simp only [List.mem_cons, List.not_mem_nil, or_false] at isScope
  rw [List.mem_append]
  rcases isScope with rfl | rfl
  · exact .inl inScope
  · exact .inr inScope

/-- Erasing parameters once more does not change them. -/
theorem IsErasable.map_erase_erasedParameters (h : m.IsErasable ownerParameters)
    (scopes : List (List TypeParameter)) :
    (m.erasedParameters ownerParameters).map (·.erase scopes) =
      m.erasedParameters ownerParameters := by
  have unchanged : ∀ s ∈ m.erasedParameters ownerParameters, s.erase scopes = id s := by
    intro s mem
    exact (h.isErased_of_mem mem).erase_eq scopes
  rw [List.map_congr_left unchanged, List.map_id]

/-- Erased parameters make up a descriptor. -/
theorem IsErasable.isAccepted (h : m.IsErasable ownerParameters) :
    Descriptor.IsAccepted ⟨m.erasedParameters ownerParameters, m.result⟩ := by
  refine Descriptor.isAccepted_iff.2 ⟨?_, Signature.parseText_text_eq_ok_iff.1 h.result⟩
  intro s mem
  exact (h.isErased_of_mem mem).isParameter

end Member

namespace Declaration

/-- The name of a member of a type with its erased parameters and its result. -/
def ownSpecifier (target : Declaration) (m : Member) : Specifier :=
  .exact m.name (m.erasedParameters target.typeParameters) m.result

/-- A method has the name that the own specifier of a member asks for, and its erased parameters are
those of the member up to separators. -/
structure SharesParameters (target : Declaration) (m candidate : Member) : Prop where
  isMethod : candidate.kind ≠ .field
  named : nameMatches (target.ownSpecifier m) candidate = true
  parameters : List.Forall₂ Alike (candidate.erasedParameters target.typeParameters)
    (m.erasedParameters target.typeParameters)

instance (target : Declaration) (m candidate : Member) :
    Decidable (target.SharesParameters m candidate) :=
  decidable_of_iff (candidate.kind ≠ .field ∧ nameMatches (target.ownSpecifier m) candidate = true ∧
    List.Forall₂ Alike (candidate.erasedParameters target.typeParameters)
      (m.erasedParameters target.typeParameters)) ⟨fun h => ⟨h.1, h.2.1, h.2.2⟩,
        fun h => ⟨h.1, h.2, h.3⟩⟩

variable {target : Declaration} {m : Member}

/-- A member has the name that its own specifier asks for, whatever that name stands for. -/
theorem nameMatches_ownSpecifier (target : Declaration) (m : Member) :
    nameMatches (target.ownSpecifier m) m = true := by
  show (if m.name = constructorName then m.isConstructor
    else if m.name = staticInitializerName then m.isStaticInitializer else m.name == m.name) = true
  split_ifs with isConstructor isInitializer
  · simp [Member.isConstructor, isConstructor]
  · simp [Member.isStaticInitializer, isInitializer]
  · exact beq_self_eq_true _

theorem SharesParameters.refl (target : Declaration) (isMethod : m.kind ≠ .field) :
    target.SharesParameters m m :=
  ⟨isMethod, nameMatches_ownSpecifier target m, List.forall₂_same.2 fun s _ => Alike.refl s⟩

theorem parseText_ownSpecifier (named : Specifier.IsMemberName m.name)
    (erasable : m.IsErasable target.typeParameters) :
    Specifier.parseText (target.ownSpecifier m).raw = .ok (target.ownSpecifier m) :=
  Specifier.parseText_append named erasable.isAccepted

/-- The own specifier of a member admits the methods that share its name and parameters. -/
theorem admits_ownSpecifier_iff (erasable : m.IsErasable target.typeParameters)
    {candidate : Member} :
    target.Admits (target.ownSpecifier m) candidate ↔ target.SharesParameters m candidate := by
  have compared : target.descriptorMatches (target.ownSpecifier m) candidate = true ↔
      candidate.kind ≠ .field ∧
        List.Forall₂ Alike (candidate.erasedParameters target.typeParameters)
          (m.erasedParameters target.typeParameters) := by
    show (candidate.kind != .field && candidate.parametersMatch target.typeParameters
      (m.erasedParameters target.typeParameters)) = true ↔ _
    rw [Bool.and_eq_true, bne_iff_ne, Member.parametersMatch, Signature.allSame_eq_true_iff,
      erasable.map_erase_erasedParameters]
  rw [Admits, compared]
  constructor
  · rintro ⟨named, isMethod, parameters⟩
    exact ⟨isMethod, named, parameters⟩
  · rintro ⟨isMethod, named, parameters⟩
    exact ⟨named, isMethod, parameters⟩

/-- The name of a method with its erased descriptor is read as a specifier, which selects one method
and meets no problem.  The method selected is the first that shares name and parameters. -/
theorem resolveMethod_ownSpecifier (target : Declaration) (m : Member)
    (declared : m ∈ target.methods) (isMethod : m.kind ≠ .field)
    (named : Specifier.IsMemberName m.name) (erasable : m.IsErasable target.typeParameters) :
    Specifier.parseText
        (m.name ++ Descriptor.text ⟨m.erasedParameters target.typeParameters, m.result⟩) =
      .ok (target.ownSpecifier m) ∧
    ∃ first place,
      target.resolveMethod (target.ownSpecifier m) =
        { selected := [(first, place)], diagnostics := [] } ∧
      target.methods[place]? = some first ∧ target.SharesParameters m first ∧
      ∀ before < place, ∀ other, target.methods[before]? = some other →
        ¬ target.SharesParameters m other := by
  refine ⟨parseText_ownSpecifier named erasable, ?_⟩
  -- The method is a candidate of its own specifier, but one before it may be another.
  have admitted : target.Admits (target.ownSpecifier m) m :=
    (admits_ownSpecifier_iff erasable).2 (.refl target isMethod)
  obtain ⟨first, place, others, eligible, isFirst, shares, earlier⟩ :=
    exists_first_eligible declared admitted
  refine ⟨first, place, ?_, isFirst, (admits_ownSpecifier_iff erasable).1 shares, ?_⟩
  · exact resolve_of_eligible_eq_cons (Specifier.appliesTo_exact _ _ _ _) rfl rfl eligible
  · intro before isBefore other isOther sharesToo
    exact earlier before isBefore other isOther ((admits_ownSpecifier_iff erasable).2 sharesToo)

/-- A variable of the method hides that of the type, and the method is declared after one that
differs from it in type arguments and separators and one whose variable is that of the type. -/
theorem resolveMethod_ownSpecifier_put :
    let own : List TypeParameter := [⟨"T", [⟨"Lp.Box<TE;>;"⟩]⟩, ⟨"E", [⟨"TE;"⟩]⟩]
    let outer : Member := { name := "put", parameters := [⟨"[TT;"⟩, ⟨"I"⟩] }
    let raw : Member := { name := "put", parameters := [⟨"[Lp/Box<*>;"⟩, ⟨"I"⟩] }
    let m : Member := { name := "put", parameters := [⟨"[TT;"⟩, ⟨"I"⟩], typeParameters := own }
    let target : Declaration :=
      { name := ⟨"p.Shelf"⟩
        typeParameters := [⟨"T", [⟨"Ljava/util/List<TT;>;"⟩]⟩]
        methods := [outer, raw, m] }
    m ∈ target.methods ∧ m.kind ≠ .field ∧ Specifier.IsMemberName m.name ∧
      m.IsErasable target.typeParameters ∧
      Specifier.parseText "put([Lp.Box;I)V" = .ok (target.ownSpecifier m) ∧
      target.resolveMethod (target.ownSpecifier m) = { selected := [(raw, 1)] } := by
  intro own outer raw m target
  have declared : m ∈ target.methods := by simp [target]
  have named : Specifier.IsMemberName m.name := by decide
  have erasable : m.IsErasable target.typeParameters := ⟨by decide, by decide, by decide⟩
  obtain ⟨read, first, place, found, isFirst, shares, earlier⟩ :=
    resolveMethod_ownSpecifier target m declared (by decide) named erasable
  have written : m.name ++ Descriptor.text ⟨m.erasedParameters target.typeParameters, m.result⟩ =
      "put([Lp.Box;I)V" := by decide
  rw [written] at read
  have sharesRaw : target.SharesParameters m raw := by decide
  have notOuter : ¬ target.SharesParameters m outer := by decide
  obtain ⟨rfl, rfl⟩ : raw = first ∧ place = 1 := by
    match place with
    | 0 =>
        obtain rfl := Option.some.inj isFirst
        exact absurd shares notOuter
    | 1 => exact ⟨Option.some.inj isFirst, rfl⟩
    | place + 2 => exact absurd sharesRaw (earlier 1 (by omega) raw rfl)
  exact ⟨declared, by decide, named, erasable, read, found⟩

end Declaration

end MixinIndex
