import MixinIndex.Declaration.Member
import MixinIndex.Proofs.Signature.Grammar

/-!
# Erased signatures

What erasure yields is a signature again, and one that erasure leaves as it is: type variables are
replaced by what their bounds erase to, and a class signature keeps its name and loses its type
arguments.

## Main definitions

* `Signature.IsErased`: signatures without type variables and type arguments
* `Signature.IsErasable`: signatures that have such an erasure

## Main statements

* `Signature.isErased_eraseWithin`: erasure yields erased signatures
* `Signature.IsErased.eraseWithin_eq`: erasure leaves erased signatures as they are
* `Signature.IsErased.isSignature`: erased signatures are signatures

## Design notes

The one way for an erasure not to be a signature is a class name that consists of type arguments
only.  `IsErasable` excludes it for the signature itself; what the bounds of a variable erase to is
settled by the same condition on the bounds, however long their chain is.
-/

namespace MixinIndex.Signature

open Text

/-! ### Type arguments -/

/-- A text without the marks that structure signatures. -/
def IsPlain (name : List Char) : Prop := ∀ c ∈ name, c ∉ [';', '<', '>', '(', ')']

instance (name : List Char) : Decidable (IsPlain name) :=
  decidable_of_iff (name.all fun c => c ∉ [';', '<', '>', '(', ')']) (by simp [IsPlain])

theorem IsPlain.isBody {body : List Char} (h : IsPlain body) : IsBody 0 body := by
  induction body with
  | nil => exact isBody_nil.2 rfl
  | cons c body ih =>
      obtain ⟨notMark, plain⟩ := List.forall_mem_cons.1 h
      refine isBody_cons.2 ⟨0, ?_, ih plain⟩
      simp only [List.mem_cons, List.not_mem_nil, or_false, not_or] at notMark
      simp [depthAfter?, notMark]

/-- A character is kept exactly if no list of type arguments is open before it or after it. -/
theorem stripArguments_cons {depth next : Nat} {c : Char} (h : depthAfter? depth c = some next)
    (cs : List Char) :
    stripArguments depth (c :: cs) =
      if depth = 0 ∧ next = 0 then c :: stripArguments next cs else stripArguments next cs := by
  simp only [depthAfter?] at h
  simp only [stripArguments]
  split_ifs at h ⊢ <;> simp_all

/-- What is kept of a text is plain. -/
theorem notMark_of_depthAfter? {c : Char} (h : depthAfter? 0 c = some 0) :
    c ∉ [';', '<', '>', '(', ')'] := by
  simp only [depthAfter?] at h
  split_ifs at h <;> simp_all

/-- After a body all of its lists are closed. -/
theorem stripArguments_append {depth : Nat} {body : List Char} (h : IsBody depth body)
    (rest : List Char) :
    stripArguments depth (body ++ rest) = stripArguments depth body ++ stripArguments 0 rest := by
  induction body generalizing depth with
  | nil =>
      obtain rfl := isBody_nil.1 h
      rfl
  | cons c body ih =>
      obtain ⟨next, step, isBody⟩ := isBody_cons.1 h
      rw [List.cons_append, stripArguments_cons step, stripArguments_cons step, ih isBody]
      split_ifs <;> rfl

theorem isPlain_stripArguments {depth : Nat} {body : List Char} (h : IsBody depth body) :
    IsPlain (stripArguments depth body) := by
  induction body generalizing depth with
  | nil => simp [stripArguments, IsPlain]
  | cons c body ih =>
      obtain ⟨next, step, isBody⟩ := isBody_cons.1 h
      rw [stripArguments_cons step]
      split_ifs with outside
      · obtain ⟨rfl, rfl⟩ := outside
        exact List.forall_mem_cons.2 ⟨notMark_of_depthAfter? step, ih isBody⟩
      · exact ih isBody

/-! ### Erased signatures -/

/-- A primitive type, or a class without type arguments. -/
inductive IsErasedElement : List Char → Prop
  | base {c : Char} (isLetter : c ∈ baseLetters) : IsErasedElement [c]
  | reference {lead : Char} {name : List Char} (isLead : lead = 'L' ∨ lead = 'Q')
      (nonempty : name ≠ []) (plain : IsPlain name) : IsErasedElement (lead :: (name ++ [';']))

/-- A signature other than void without type variables and type arguments. -/
inductive IsErased : List Char → Prop
  | array (dims : Nat) {element : List Char} (isElement : IsErasedElement element) :
      IsErased (List.replicate dims '[' ++ element)

/-- A signature other than void whose class name is more than type arguments. -/
structure IsErasable (s : Signature) : Prop where
  accepted : parseText s.text = .ok s
  notVoid : s ≠ void
  /-- If it is the signature of a class or of an array of a class, something is left of the name. -/
  named : ∀ dims lead body, s.chars = List.replicate dims '[' ++ lead :: (body ++ [';']) →
    lead = 'L' ∨ lead = 'Q' → stripArguments 0 body ≠ []

theorem IsErasedElement.isElement {element : List Char} (h : IsErasedElement element) :
    IsElement element := by
  cases h with
  | base isLetter => exact .base isLetter
  | reference isLead nonempty plain => exact .reference isLead nonempty plain.isBody

theorem IsErased.isSignature {cs : List Char} (h : IsErased cs) : IsSignature cs := by
  cases h with
  | array dims isElement => exact .array dims isElement.isElement

/-- An erased element starts with another letter than a variable or void. -/
theorem IsErasedElement.eq_cons {element : List Char} (h : IsErasedElement element) :
    ∃ c cs, element = c :: cs ∧ c ∈ 'L' :: 'Q' :: baseLetters := by
  cases h with
  | base isLetter => exact ⟨_, _, rfl, List.mem_cons_of_mem _ (List.mem_cons_of_mem _ isLetter)⟩
  | @reference lead name isLead =>
      refine ⟨lead, _, rfl, ?_⟩
      rcases isLead with rfl | rfl <;> decide

theorem IsErased.isParameter {s : Signature} (h : IsErased s.chars) : s.IsParameter := by
  refine ⟨h.isSignature, ?_⟩
  rw [Ne, eq_void_iff]
  generalize s.chars = cs at h
  cases h with
  | @array dims element isElement =>
      obtain ⟨c, rest, rfl, isLead⟩ := isElement.eq_cons
      intro same
      have mem : c ∈ ['V'] := by
        rw [← same]
        exact List.mem_append_right _ List.mem_cons_self
      obtain rfl := List.mem_singleton.1 mem
      exact absurd isLead (by decide)

/-- The signature of the root class is erased. -/
theorem isErased_object : IsErased object.chars := by
  have plain : IsPlain "java/lang/Object".toList := by decide
  exact .array 0 (.reference (.inl rfl) (by decide) plain)

/-! ### Erasing -/

theorem dimensions_element (cs : List Char) : dimensions (element cs) = [] := by
  rw [dimensions, element, List.takeWhile_eq_nil_iff]
  intro inside isDimension
  exact List.dropWhile_get_zero_not (· == '[') cs inside isDimension

theorem element_element (cs : List Char) : element (element cs) = element cs := by
  have split := dimensions_append_element (element cs)
  rwa [dimensions_element, List.nil_append] at split

/-- The dimensions of a signature are kept, and its element is erased. -/
theorem eraseWithin_eq_append (scopes : List (List TypeParameter)) (steps : Nat) (cs : List Char) :
    eraseWithin scopes steps cs = dimensions cs ++ eraseWithin scopes steps (element cs) := by
  cases steps with
  | zero => rw [eraseWithin, eraseWithin, dimensions_element, element_element, List.nil_append]
  | succ steps =>
      rw [eraseWithin, eraseWithin, dimensions_element, element_element, List.nil_append]

/-- What is no type variable is erased in all scopes alike. -/
theorem eraseWithin_of_variableNameOf_eq_none {cs : List Char}
    (noVariable : variableNameOf (element cs) = none) (scopes : List (List TypeParameter))
    (steps : Nat) : eraseWithin scopes steps cs = eraseWithin [] steps cs := by
  cases steps with
  | zero => rw [eraseWithin, eraseWithin, noVariable]
  | succ steps => rw [eraseWithin, eraseWithin, noVariable]

/-- The dimensions end where the element starts. -/
theorem IsElement.dimensions_append {element : List Char} (h : IsElement element) (dims : Nat) :
    dimensions (List.replicate dims '[' ++ element) = List.replicate dims '[' ∧
      Signature.element (List.replicate dims '[' ++ element) = element := by
  apply span_dimensions
  simpa using h.head_ne []

/-- Dimensions are kept, and what stands behind them is erased. -/
theorem eraseWithin_array (scopes : List (List TypeParameter)) (steps dims : Nat)
    {element : List Char} (h : IsElement element) :
    eraseWithin scopes steps (List.replicate dims '[' ++ element) =
      List.replicate dims '[' ++ eraseWithin scopes steps element := by
  obtain ⟨someDims, someElement⟩ := h.dimensions_append dims
  rw [eraseWithin_eq_append, someDims, someElement]

/-- An element other than a variable loses its type arguments. -/
theorem eraseWithin_element (scopes : List (List TypeParameter)) (steps : Nat) {element : List Char}
    (h : IsElement element) (noVariable : variableNameOf element = none) :
    eraseWithin scopes steps element =
      if '<' ∈ element then stripArguments 0 element else element := by
  obtain ⟨noDims, wholeElement⟩ : dimensions element = [] ∧ Signature.element element = element :=
    h.dimensions_append 0
  cases steps <;> rw [eraseWithin, noDims, wholeElement, noVariable] <;> rfl

/-- A variable becomes what its bound erases to, as long as bounds are followed. -/
theorem eraseWithin_variable (scopes : List (List TypeParameter)) (steps : Nat) {name : List Char}
    (nonempty : name ≠ []) :
    eraseWithin scopes steps ('T' :: (name ++ [';'])) =
      match steps, firstBound? scopes name with
      | steps + 1, some bound => eraseWithin scopes steps bound.chars
      | _, _ => object.chars := by
  have isVariable : variableNameOf (element ('T' :: (name ++ [';']))) = some name :=
    variableNameOf_eq_some.2 ⟨nonempty, rfl⟩
  cases steps <;> rw [eraseWithin, isVariable] <;> rfl

theorem eraseWithin_base (scopes : List (List TypeParameter)) (steps : Nat) {c : Char}
    (isLetter : c ∈ baseLetters) : eraseWithin scopes steps [c] = [c] := by
  have notLead : c ≠ 'T' := by
    rintro rfl
    exact absurd isLetter (by decide)
  have noArguments : '<' ∉ [c] := by
    rw [List.mem_singleton]
    rintro rfl
    exact absurd isLetter (by decide)
  rw [eraseWithin_element _ _ (.base isLetter) (variableNameOf_of_ne notLead _),
    if_neg noArguments]

/-- A class keeps what stands outside of its type arguments. -/
theorem eraseWithin_reference (scopes : List (List TypeParameter)) (steps : Nat) {lead : Char}
    {body : List Char} (isLead : lead = 'L' ∨ lead = 'Q') (nonempty : body ≠ [])
    (isBody : IsBody 0 body) :
    eraseWithin scopes steps (lead :: (body ++ [';'])) =
      lead :: (stripArguments 0 body ++ [';']) := by
  have notLead : lead ≠ 'T' := by rcases isLead with rfl | rfl <;> decide
  have leadStep : depthAfter? 0 lead = some 0 := by rcases isLead with rfl | rfl <;> rfl
  have strip : stripArguments 0 (lead :: (body ++ [';'])) =
      lead :: (stripArguments 0 body ++ [';']) := by
    rw [stripArguments_cons leadStep, if_pos ⟨rfl, rfl⟩, stripArguments_append isBody]
    rfl
  rw [eraseWithin_element _ _ (.reference isLead nonempty isBody) (variableNameOf_of_ne notLead _)]
  split_ifs with opens
  · exact strip
  · -- without an opening bracket there is no closing one either, and nothing to remove
    have noOpening : '<' ∉ body := by
      intro mem
      exact opens (List.mem_cons_of_mem lead (List.mem_append_left _ mem))
    have noClosing : '>' ∉ body := by
      rw [← List.count_eq_zero, isBody.closed, Nat.zero_add, List.count_eq_zero]
      exact noOpening
    rw [stripArguments_eq_self noOpening noClosing]

/-- The bound that is found is one of those in scope. -/
theorem exists_of_firstBound? {scopes : List (List TypeParameter)} {name : List Char}
    {bound : Signature} (h : firstBound? scopes name = some bound) :
    ∃ scope ∈ scopes, ∃ parameter ∈ scope, bound ∈ parameter.bounds := by
  unfold firstBound? at h
  split at h
  · rename_i parameter found
    obtain ⟨scope, mem, within⟩ := List.mem_flatten.1 (List.mem_of_find?_eq_some found)
    exact ⟨scope, mem, parameter, within, List.mem_of_mem_head? h⟩
  · cases h

/-- Dimensions before an erased signature are dimensions of it. -/
theorem IsErased.replicate_append {cs : List Char} (h : IsErased cs) (dims : Nat) :
    IsErased (List.replicate dims '[' ++ cs) := by
  cases h with
  | array more isElement =>
      rw [← List.append_assoc, List.replicate_append_replicate]
      exact .array (dims + more) isElement

/-- An erasable signature erases well if variables do: a primitive type stays, and a class keeps a
plain name. -/
theorem IsErasable.isErased_of_variables {scopes : List (List TypeParameter)} {steps : Nat}
    {s : Signature} (h : s.IsErasable)
    (erased : ∀ name, name ≠ [] → IsElement ('T' :: (name ++ [';'])) →
      IsErased (eraseWithin scopes steps ('T' :: (name ++ [';'])))) :
    IsErased (eraseWithin scopes steps s.chars) := by
  have isSignature := parseText_text_eq_ok_iff.1 h.accepted
  have notVoid := h.notVoid
  have named := h.named
  rw [Ne, eq_void_iff] at notVoid
  generalize s.chars = cs at isSignature notVoid named
  cases isSignature with
  | void => exact absurd rfl notVoid
  | @array dims element isElement =>
      rw [eraseWithin_array _ _ _ isElement]
      apply IsErased.replicate_append
      cases isElement with
      | base isLetter =>
          rw [eraseWithin_base _ _ isLetter]
          exact .array 0 (.base isLetter)
      | @reference lead body isLead nonempty isBody =>
          rw [eraseWithin_reference _ _ isLead nonempty isBody]
          exact .array 0
            (.reference isLead (named dims lead body rfl isLead) (isPlain_stripArguments isBody))
      | @typeVariable name nonempty plain =>
          exact erased name nonempty (.typeVariable nonempty plain)

/-- Only the element of a signature can be a class, so only its name has to be stripped. -/
theorem isErasable_iff {s : Signature} :
    s.IsErasable ↔ parseText s.text = .ok s ∧ s ≠ void ∧
      ((element s.chars).head? = some 'L' ∨ (element s.chars).head? = some 'Q' →
        stripArguments 0 (element s.chars).tail.dropLast ≠ []) := by
  constructor
  · intro h
    refine ⟨h.accepted, h.notVoid, fun isLead => ?_⟩
    have isSignature := parseText_text_eq_ok_iff.1 h.accepted
    have named := h.named
    generalize s.chars = cs at isSignature named isLead ⊢
    cases isSignature with
    | void => exact absurd isLead (by decide)
    | @array dims element isElement =>
        rw [(isElement.dimensions_append dims).2] at isLead ⊢
        cases isElement with
        | base isLetter =>
            simp only [List.head?_cons, Option.some.injEq] at isLead
            rcases isLead with rfl | rfl <;> exact absurd isLetter (by decide)
        | @reference lead body isReference nonempty isBody =>
            have stripped := named dims lead body rfl isReference
            simpa using stripped
        | typeVariable nonempty plain => simp at isLead
  · rintro ⟨accepted, notVoid, named⟩
    refine ⟨accepted, notVoid, ?_⟩
    intro dims lead body same isLead
    have stops : ∀ c ∈ (lead :: (body ++ [';'])).head?, c ≠ '[' := by
      intro c head
      obtain rfl := Option.some.inj head
      rcases isLead with rfl | rfl <;> decide
    have written : element s.chars = lead :: (body ++ [';']) := by
      rw [same]
      exact (span_dimensions dims stops).2
    rw [written] at named
    simpa [isLead] using named

instance (s : Signature) : Decidable s.IsErasable := decidable_of_iff _ isErasable_iff.symm

/-- The erasure of an erasable signature is erased, if the bounds in scope are erasable. -/
theorem isErased_eraseWithin {scopes : List (List TypeParameter)}
    (bounds : ∀ scope ∈ scopes, ∀ parameter ∈ scope, ∀ bound ∈ parameter.bounds, bound.IsErasable)
    (steps : Nat) {s : Signature} (h : s.IsErasable) :
    IsErased (eraseWithin scopes steps s.chars) := by
  -- One bound is followed in each step, and it is erasable again.
  induction steps generalizing s with
  | zero =>
      apply h.isErased_of_variables
      intro name nonempty _
      rw [eraseWithin_variable _ _ nonempty]
      exact isErased_object
  | succ steps ih =>
      apply h.isErased_of_variables
      intro name nonempty _
      rw [eraseWithin_variable _ _ nonempty]
      cases found : firstBound? scopes name with
      | none => exact isErased_object
      | some bound =>
          obtain ⟨scope, inScope, parameter, inParameter, isBound⟩ := exists_of_firstBound? found
          exact ih (bounds scope inScope parameter inParameter bound isBound)

/-- Erasure leaves erased signatures as they are, in every scope. -/
theorem IsErased.eraseWithin_eq {cs : List Char} (h : IsErased cs)
    (scopes : List (List TypeParameter)) (steps : Nat) : eraseWithin scopes steps cs = cs := by
  cases h with
  | @array dims element isElement =>
      rw [eraseWithin_array _ _ _ isElement.isElement]
      congr 1
      cases isElement with
      | base isLetter => exact eraseWithin_base _ _ isLetter
      | @reference lead name isLead nonempty plain =>
          rw [eraseWithin_reference _ _ isLead nonempty plain.isBody, stripArguments_eq_self]
          · exact fun mem => plain '<' mem (by decide)
          · exact fun mem => plain '>' mem (by decide)

theorem isErased_erase {scopes : List (List TypeParameter)}
    (bounds : ∀ scope ∈ scopes, ∀ parameter ∈ scope, ∀ bound ∈ parameter.bounds, bound.IsErasable)
    {s : Signature} (h : s.IsErasable) : IsErased (s.erase scopes).chars := by
  rw [erase, chars_ofChars]
  exact isErased_eraseWithin bounds maxBoundDepth h

theorem IsErased.erase_eq {s : Signature} (h : IsErased s.chars)
    (scopes : List (List TypeParameter)) : s.erase scopes = s := by
  rw [erase, h.eraseWithin_eq, ofChars_chars]

end MixinIndex.Signature
