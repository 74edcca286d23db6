import Mathlib.Data.Nat.Find
import MixinIndex.Proofs.Signature.Bounds

/-!
# Scopes of bounds

What the type parameters of a member do to the variables of its owner.  Each variable on a chain of
bounds is looked up in the member's scope first, also the variables in the owner's own bounds.  So
an owner's variable erases as it does in the owner if the chain meets no name that the member
declares, and from the first such name on it erases as that variable of the member.

## Main definitions

* `Signature.Reaches`: the variables on a chain of bounds
* `Signature.IsFree`: an inner scope declares none of them
* `Signature.Captures`: the first of them that an inner scope declares

## Main statements

* `Signature.Reaches.eraseWithin_eq`: erasure goes on at each variable that a chain reaches
* `Signature.IsFree.eraseWithin_eq`: an inner scope that declares none of them changes nothing
* `Signature.erase_memberScope`: the owner's variables in a member

## Design notes

The chain is that of the outer scopes alone.  Up to the first name that the inner scope declares it
is the chain of all scopes too, and after that name the two have nothing to do with each other.
-/

namespace MixinIndex.Signature

/-- A parameter of a name is declared. -/
def IsDeclared (parameters : List TypeParameter) (name : List Char) : Prop :=
  ∃ parameter ∈ parameters, parameter.name.toList = name

instance (parameters : List TypeParameter) (name : List Char) :
    Decidable (IsDeclared parameters name) :=
  inferInstanceAs (Decidable (∃ parameter ∈ parameters, parameter.name.toList = name))

/-- The signature of a type variable, or of an array of it. -/
def ofVariable (dims : Nat) (name : List Char) : Signature :=
  ofChars (List.replicate dims '[' ++ 'T' :: (name ++ [';']))

/-- A chain of first bounds leads from one variable to another.  Counted are the bounds on the way,
and their array dimensions are collected. -/
inductive Reaches (scopes : List (List TypeParameter)) :
    Nat → List Char → List Char → List Char → Prop
  | refl (name : List Char) : Reaches scopes 0 [] name name
  | step {steps : Nat} {dims name next other : List Char} {bound : Signature} (nonempty : name ≠ [])
      (isBound : IsFirstBound scopes name bound)
      (isVariable : variableNameOf (element bound.chars) = some next)
      (reaches : Reaches scopes steps dims next other) :
      Reaches scopes (steps + 1) (dimensions bound.chars ++ dims) name other

variable {inner : List TypeParameter} {scopes : List (List TypeParameter)}

/-- A bound that is a variable, or an array of one, is replaced by what this variable erases to. -/
theorem eraseWithin_of_variableNameOf_eq_some (limit : Nat) {cs next : List Char}
    (isVariable : variableNameOf (element cs) = some next) :
    eraseWithin scopes limit cs =
      dimensions cs ++ eraseWithin scopes limit ('T' :: (next ++ [';'])) := by
  rw [eraseWithin_eq_append, (variableNameOf_eq_some.1 isVariable).2]

/-- Erasure goes on at each variable that a chain reaches. -/
theorem Reaches.eraseWithin_eq {steps : Nat} {dims name other : List Char}
    (h : Reaches scopes steps dims name other) (limit : Nat) :
    eraseWithin scopes (limit + steps) ('T' :: (name ++ [';'])) =
      dims ++ eraseWithin scopes limit ('T' :: (other ++ [';'])) := by
  induction h with
  | refl name => rfl
  | @step steps dims name next other bound nonempty isBound isVariable _ ih =>
      rw [← Nat.add_assoc, eraseWithin_variable scopes _ nonempty,
        firstBound?_eq_some_iff.2 isBound]
      show eraseWithin scopes (limit + steps) bound.chars = _
      rw [eraseWithin_of_variableNameOf_eq_some _ isVariable, ih, List.append_assoc]

/-! ### An inner scope -/

/-- A name that the inner scope does not declare is looked up in the outer ones. -/
theorem firstBound?_cons {name : List Char} (undeclared : ¬ IsDeclared inner name) :
    firstBound? (inner :: scopes) name = firstBound? scopes name := by
  have none : inner.find? (·.name.toList == name) = none := by
    rw [List.find?_eq_none]
    intro parameter mem isNamed
    exact undeclared ⟨parameter, mem, beq_iff_eq.1 isNamed⟩
  rw [firstBound?, List.flatten_cons, List.find?_append, none]
  rfl

/-- In fewer bounds than the limit, no variable is reached that the inner scope declares. -/
def IsFree (inner : List TypeParameter) (scopes : List (List TypeParameter)) (limit : Nat)
    (name : List Char) : Prop :=
  ∀ steps < limit, ∀ dims other, Reaches scopes steps dims name other → ¬ IsDeclared inner other

theorem isFree_succ_iff {limit : Nat} {name : List Char} :
    IsFree inner scopes (limit + 1) name ↔
      ¬ IsDeclared inner name ∧
        ∀ bound next, name ≠ [] → IsFirstBound scopes name bound →
          variableNameOf (element bound.chars) = some next → IsFree inner scopes limit next := by
  constructor
  · intro free
    refine ⟨free 0 limit.succ_pos [] name (.refl name), ?_⟩
    intro bound next nonempty isBound isVariable steps within dims other reaches
    exact free (steps + 1) (Nat.succ_lt_succ within) _ other
      (.step nonempty isBound isVariable reaches)
  · rintro ⟨undeclared, free⟩ steps within dims other reaches
    cases reaches with
    | refl => exact undeclared
    | step nonempty isBound isVariable reaches =>
        exact free _ _ nonempty isBound isVariable _ (Nat.lt_of_succ_lt_succ within) _ other reaches

instance decidableIsFree (inner : List TypeParameter) (scopes : List (List TypeParameter)) :
    (limit : Nat) → (name : List Char) → Decidable (IsFree inner scopes limit name)
  | 0, _ => .isTrue fun _ within => absurd within (Nat.not_lt_zero _)
  | limit + 1, name =>
    have := decidableIsFree inner scopes limit
    decidable_of_iff (¬ IsDeclared inner name ∧ ∀ bound ∈ firstBound? scopes name,
        ∀ next ∈ variableNameOf (element bound.chars), name ≠ [] →
          IsFree inner scopes limit next) <| by
      simp only [isFree_succ_iff, Option.mem_def, firstBound?_eq_some_iff]
      exact and_congr_right fun _ =>
        ⟨fun free bound next nonempty isBound isVariable =>
          free bound isBound next isVariable nonempty,
        fun free bound isBound next isVariable nonempty =>
          free bound next nonempty isBound isVariable⟩

/-- The inner scope changes nothing as long as none of the variables is its own. -/
theorem IsFree.eraseWithin_eq {limit : Nat} {name : List Char}
    (h : IsFree inner scopes limit name) :
    eraseWithin (inner :: scopes) limit ('T' :: (name ++ [';'])) =
      eraseWithin scopes limit ('T' :: (name ++ [';'])) := by
  by_cases nonempty : name = []
  · subst nonempty
    have noVariable : variableNameOf (element ('T' :: ([] ++ [';']))) = none := rfl
    rw [eraseWithin_of_variableNameOf_eq_none noVariable,
      eraseWithin_of_variableNameOf_eq_none noVariable scopes]
  induction limit generalizing name with
  | zero => rw [eraseWithin_variable _ 0 nonempty, eraseWithin_variable _ 0 nonempty]
  | succ limit ih =>
      rw [eraseWithin_variable _ _ nonempty, eraseWithin_variable _ _ nonempty,
        firstBound?_cons (isFree_succ_iff.1 h).1]
      cases found : firstBound? scopes name with
      | none => rfl
      | some bound =>
          show eraseWithin (inner :: scopes) limit bound.chars =
            eraseWithin scopes limit bound.chars
          cases isVariable : variableNameOf (element bound.chars) with
          | none =>
              rw [eraseWithin_of_variableNameOf_eq_none isVariable,
                eraseWithin_of_variableNameOf_eq_none isVariable scopes]
          | some next =>
              have free := (isFree_succ_iff.1 h).2 bound next nonempty
                (firstBound?_eq_some_iff.1 found) isVariable
              rw [eraseWithin_of_variableNameOf_eq_some _ isVariable,
                eraseWithin_of_variableNameOf_eq_some _ isVariable,
                ih free (variableNameOf_eq_some.1 isVariable).1]

/-- The chain of the outer scopes is that of all scopes, up to a name that the inner one
declares. -/
theorem Reaches.cons {steps : Nat} {dims name other : List Char}
    (h : Reaches scopes steps dims name other) (free : IsFree inner scopes steps name) :
    Reaches (inner :: scopes) steps dims name other := by
  induction h with
  | refl name => exact .refl name
  | step nonempty isBound isVariable _ ih =>
      obtain ⟨undeclared, goesOn⟩ := isFree_succ_iff.1 free
      refine .step nonempty ?_ isVariable (ih (goesOn _ _ nonempty isBound isVariable))
      rw [← firstBound?_eq_some_iff, firstBound?_cons undeclared]
      exact firstBound?_eq_some_iff.2 isBound

/-- The first variable on a chain that the inner scope declares. -/
structure Captures (inner : List TypeParameter) (scopes : List (List TypeParameter)) (steps : Nat)
    (dims name other : List Char) : Prop where
  reaches : Reaches scopes steps dims name other
  declared : IsDeclared inner other
  first : IsFree inner scopes steps name

/-- Where the inner scope declares a variable on a chain, it declares a first one. -/
theorem exists_captures {limit : Nat} {name : List Char} (h : ¬ IsFree inner scopes limit name) :
    ∃ steps < limit, ∃ dims other, Captures inner scopes steps dims name other := by
  classical
  simp only [IsFree, not_forall, not_not] at h
  obtain ⟨steps, within, dims, other, reaches, declared⟩ := h
  have met : ∃ steps, ∃ dims other, Reaches scopes steps dims name other ∧ IsDeclared inner other :=
    ⟨steps, dims, other, reaches, declared⟩
  obtain ⟨firstDims, first, firstReaches, firstDeclared⟩ := Nat.find_spec met
  have least : Nat.find met ≤ steps := Nat.find_min' met ⟨dims, other, reaches, declared⟩
  refine ⟨Nat.find met, by omega, firstDims, first, firstReaches, firstDeclared, ?_⟩
  intro fewer isFewer others between reached isDeclared
  exact Nat.find_min met isFewer ⟨others, between, reached, isDeclared⟩

/-! ### Members and owners -/

theorem erase_ofVariable (scopes : List (List TypeParameter)) (dims : Nat) (name : List Char) :
    (ofVariable dims name).erase scopes =
      ofChars (List.replicate dims '[' ++
        eraseWithin scopes maxBoundDepth ('T' :: (name ++ [';']))) := by
  have starts : ∀ c ∈ ('T' :: (name ++ [';'])).head?, c ≠ '[' := by
    intro c head
    obtain rfl := Option.some.inj head
    decide
  obtain ⟨someDims, someElement⟩ := span_dimensions dims starts
  rw [erase, ofVariable, chars_ofChars, eraseWithin_eq_append, dimensions, someDims, element,
    someElement]

/-- A variable of the owner, or an array of it, erases in a member as it does in the owner if the
member declares none of the variables that its chain of bounds reaches in the owner, the variable
itself included and the ninth and later ones apart.  Otherwise both erasures go on from the first
variable that the member declares, one with the member's parameter of that name and one with the
owner's. -/
theorem erase_memberScope (member own : List TypeParameter) (dims : Nat) (name : List Char) :
    (IsFree member [own] 8 name →
        (ofVariable dims name).erase [member, own] = (ofVariable dims name).erase [own]) ∧
      (¬ IsFree member [own] 8 name →
        ∃ steps < 8, ∃ within other, Captures member [own] steps within name other ∧
          (ofVariable dims name).erase [member, own] =
            ofChars (List.replicate dims '[' ++ (within ++
              eraseWithin [member, own] (8 - steps) ('T' :: (other ++ [';'])))) ∧
          (ofVariable dims name).erase [own] =
            ofChars (List.replicate dims '[' ++ (within ++
              eraseWithin [own] (8 - steps) ('T' :: (other ++ [';']))))) := by
  rw [erase_ofVariable, erase_ofVariable]
  constructor
  · intro free
    exact congrArg (fun erased => ofChars (List.replicate dims '[' ++ erased)) free.eraseWithin_eq
  · intro notFree
    obtain ⟨steps, short, within, other, captures⟩ := exists_captures notFree
    have budget : maxBoundDepth = 8 - steps + steps := (Nat.sub_add_cancel short.le).symm
    refine ⟨steps, short, within, other, captures, ?_, ?_⟩
    · rw [budget, (captures.reaches.cons captures.first).eraseWithin_eq]
    · rw [budget, captures.reaches.eraseWithin_eq]

/-- A member that declares `U` changes what the owner's `T` erases to, whose bound is `U`, and
leaves the owner's `E` alone. -/
theorem erase_memberScope_number :
    let own : List TypeParameter :=
      [⟨"T", [⟨"[TU;"⟩]⟩, ⟨"U", [⟨"Ljava/lang/Number;"⟩]⟩, ⟨"E", [⟨"TK;"⟩]⟩, ⟨"K", [⟨"TE;"⟩]⟩]
    let member : List TypeParameter := [⟨"U", [⟨"Ljava/lang/String;"⟩]⟩]
    IsFree member [own] 8 ['E'] ∧
      (ofVariable 1 ['E']).erase [member, own] = (ofVariable 1 ['E']).erase [own] ∧
      (¬ IsFree member [own] 8 ['T'] ∧
        ∃ steps < 8, ∃ within other, Captures member [own] steps within ['T'] other) ∧
      (ofVariable 0 ['T']).erase [member, own] = ofChars "[Ljava/lang/String;".toList ∧
      (ofVariable 0 ['T']).erase [own] = ofChars "[Ljava/lang/Number;".toList := by
  intro own member
  have free : IsFree member [own] 8 ['E'] := by decide
  have notFree : ¬ IsFree member [own] 8 ['T'] := by decide
  obtain ⟨steps, short, within, other, captures, -, -⟩ :=
    (erase_memberScope member own 0 ['T']).2 notFree
  exact ⟨free, (erase_memberScope member own 1 ['E']).1 free,
    ⟨notFree, steps, short, within, other, captures⟩, by decide, by decide⟩

end MixinIndex.Signature
