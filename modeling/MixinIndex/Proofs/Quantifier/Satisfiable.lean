import MixinIndex.Proofs.Quantifier.Grammar
import MixinIndex.Specifier.Basic

/-!
# Satisfiable quantifiers

Which quantifiers some number of members satisfies.  A pass selects no more members than there are
positions between the bounds, and as many as there are if it is long enough; so what decides is
whether there is a position at all and the minimum fits between the bounds.  It need not: of `{2,2}`
two members are demanded, and there is one position to select.  Of `{0}` there is none.

## Main definitions

* `Quantifier.Cursor.pass`: the state after a number of members

## Main statements

* `Quantifier.Cursor.selectAll_snd`: a pass over members ends in the state after as many of them
* `Quantifier.found_pass_le`: no more are selected than there are positions
* `Quantifier.Cursor.found_pass`: as many are selected as positions in a row are accepted
* `Quantifier.exists_report_eq_none_iff`: the tokens that can be satisfied

## Design notes

The position stays put at the greatest bound.  A quantifier whose last position this is goes on
selecting members, as one without a last position does.
-/

namespace MixinIndex.Quantifier

theorem one_le_maxBound : 1 ≤ maxBound := by decide

/-! ### Passes by their length -/

namespace Cursor

/-- The state after a number of members. -/
def pass (c : Cursor) : Nat → Cursor
  | 0 => c
  | n + 1 => c.step.2.pass n

@[simp] theorem pass_zero (c : Cursor) : c.pass 0 = c := rfl

theorem pass_succ (c : Cursor) (n : Nat) : c.pass (n + 1) = c.step.2.pass n := rfl

/-- The state at the end of a pass depends on the number of members only. -/
theorem selectAll_snd {α : Type} (c : Cursor) (members : List α) :
    (c.selectAll members).2 = c.pass members.length := by
  induction members generalizing c with
  | nil => rfl
  | cons member members ih => exact ih c.step.2

theorem pass_add (c : Cursor) (n m : Nat) : c.pass (n + m) = (c.pass n).pass m := by
  induction n generalizing c with
  | zero => rw [Nat.zero_add, pass_zero]
  | succ n ih => rw [Nat.succ_add, pass_succ, pass_succ, ih]

@[simp] theorem quantifier_pass (c : Cursor) (n : Nat) : (c.pass n).quantifier = c.quantifier := by
  induction n generalizing c with
  | zero => rfl
  | succ n ih => rw [pass_succ, ih, step_quantifier]

theorem position_step {c : Cursor} (within : c.position ≤ maxBound) :
    c.step.2.position = min (c.position + 1) maxBound := by
  simp only [step]
  split_ifs <;> omega

/-- The position counts the members up to the greatest bound. -/
theorem position_pass {c : Cursor} (within : c.position ≤ maxBound) (n : Nat) :
    (c.pass n).position = min (c.position + n) maxBound := by
  induction n generalizing c with
  | zero => exact (Nat.min_eq_left within).symm
  | succ n ih =>
      have next : c.step.2.position ≤ maxBound := by
        rw [position_step within]
        exact Nat.min_le_right _ _
      rw [pass_succ, ih next, position_step within]
      omega

/-- All members are counted while the positions are accepted. -/
theorem found_pass {c : Cursor} (within : c.position ≤ maxBound) {n : Nat}
    (accepted : ∀ k < n, c.quantifier.accepts (min (c.position + k) maxBound) = true) :
    (c.pass n).found = c.found + n := by
  induction n generalizing c with
  | zero => rfl
  | succ n ih =>
      have first : c.quantifier.accepts c.position = true := by
        have accepts := accepted 0 (Nat.succ_pos n)
        rwa [Nat.add_zero, Nat.min_eq_left within] at accepts
      have counted : c.step.2.found = c.found + 1 := if_pos first
      have moved := position_step within
      have others : ∀ k < n,
          c.step.2.quantifier.accepts (min (c.step.2.position + k) maxBound) = true := by
        intro k isLess
        have same : min (c.step.2.position + k) maxBound =
            min (c.position + (k + 1)) maxBound := by omega
        rw [same, step_quantifier]
        exact accepted (k + 1) (Nat.succ_lt_succ isLess)
      rw [pass_succ, ih (by omega) others, counted]
      omega

/-- Between the first position and a last one below the greatest bound, each position is counted
once.  There is none before the position one. -/
theorem found_pass_le_of {c : Cursor} {last : Nat} (isLast : c.quantifier.last = some last)
    (below : last < maxBound) (started : 1 ≤ c.position)
    (once : c.found ≤ min c.position (last + 1) - max c.quantifier.first 1) (n : Nat) :
    (c.pass n).found ≤ last + 1 - max c.quantifier.first 1 := by
  induction n generalizing c with
  | zero =>
      rw [pass_zero]
      omega
  | succ n ih =>
      apply ih (c := c.step.2) isLast
      · show 1 ≤ if c.position < maxBound then c.position + 1 else c.position
        split_ifs <;> omega
      · simp only [step, accepts, isLast, Option.all_some, Bool.and_eq_true, decide_eq_true_eq]
        split_ifs <;> omega

theorem report_eq_none_iff {c : Cursor} {subject : String} :
    c.report subject = none ↔ c.quantifier.minimum ≤ c.found ∧ 1 ≤ c.found := by
  rw [report]
  split_ifs <;> simp <;> omega

end Cursor

/-- A pass selects no more members than there are positions between the bounds. -/
theorem found_pass_le {q : Quantifier} {last : Nat} (isLast : q.last = some last)
    (below : last < maxBound) (n : Nat) : (q.cursor.pass n).found ≤ last + 1 - max q.first 1 :=
  Cursor.found_pass_le_of (c := q.cursor) isLast below (Nat.le_refl 1) (Nat.zero_le _) n

/-! ### Tokens -/

/-- What the bounds of a token have in common: they are ordered unless the first position is taken
for granted, and what is demanded is nothing or the first bound. -/
structure IsBounded (q : Quantifier) : Prop where
  first : q.first ≤ maxBound
  last : ∀ last ∈ q.last, q.first ≤ last ∨ q.first ≤ 1
  minimum : q.minimum = 0 ∨ q.minimum = q.first

theorem IsToken.isBounded {token : List Char} {q : Quantifier} (h : IsToken token q) :
    q.IsBounded := by
  cases h with
  | absent => exact ⟨one_le_maxBound, by simp [implicit], .inl rfl⟩
  | star => exact ⟨one_le_maxBound, by simp, .inl rfl⟩
  | plus => exact ⟨one_le_maxBound, by simp, .inr rfl⟩
  | braces bounds =>
      cases bounds with
      | exactly bound => exact ⟨bound.fits, by simp, .inl rfl⟩
      | atLeast bound => exact ⟨bound.fits, by simp, .inr rfl⟩
      | atMost bound => exact ⟨one_le_maxBound, by simp, .inl rfl⟩
      | between least greatest ordered => exact ⟨least.fits, by simp [ordered], .inr rfl⟩

/-- Where there is room, a pass to the first position and over as many members as are demanded
satisfies a quantifier. -/
theorem exists_report_eq_none {q : Quantifier} (bounded : q.IsBounded)
    (room : ∀ last ∈ q.last, 1 ≤ last ∧ (last < maxBound → q.minimum + q.first ≤ last + 1)) :
    ∃ n, ∀ subject, (q.cursor.pass n).report subject = none := by
  obtain ⟨inRange, ordered, demanded⟩ := bounded
  have one := one_le_maxBound
  let start := q.cursor.pass (q.first - 1)
  have begins : start.position = max q.first 1 := by
    have counted : start.position = min (1 + (q.first - 1)) maxBound :=
      Cursor.position_pass (c := q.cursor) one _
    omega
  have within : start.position ≤ maxBound := by omega
  have selected : (start.pass (max q.minimum 1)).found = start.found + max q.minimum 1 := by
    refine Cursor.found_pass within fun k isLess => ?_
    have unchanged : start.quantifier = q := Cursor.quantifier_pass _ _
    rw [unchanged, begins]
    simp only [accepts, Bool.and_eq_true, decide_eq_true_eq, Option.all_eq_true]
    refine ⟨by omega, fun last isLast => ?_⟩
    have greatest := ordered last isLast
    obtain ⟨least, fits⟩ := room last isLast
    omega
  refine ⟨q.first - 1 + max q.minimum 1, fun subject => ?_⟩
  rw [Cursor.pass_add, Cursor.report_eq_none_iff, selected, Cursor.quantifier_pass,
    Cursor.quantifier_pass]
  show q.minimum ≤ _ ∧ _
  omega

/-- A token can be satisfied if and only if its last position is one that a member can have and
leaves room for the minimum: as many positions as are demanded, from the first one on.  Without a
last position there is always room, and at the greatest bound too. -/
theorem exists_report_eq_none_iff {token : String} {q : Quantifier}
    (read : parseText token = .ok q) :
    (∃ n, ∀ subject, (q.cursor.pass n).report subject = none) ↔
      ∀ last ∈ q.last, 1 ≤ last ∧ (last < maxBound → q.minimum + q.first ≤ last + 1) := by
  have isToken : IsToken token.toList q := parse_eq_ok_iff.1 (Except.mapError_eq_ok_iff.1 read)
  constructor
  · rintro ⟨n, quiet⟩ last isLast
    obtain ⟨enough, nonempty⟩ := Cursor.report_eq_none_iff.1 (quiet "")
    rw [Cursor.quantifier_pass] at enough
    have demanded : q.minimum ≤ (q.cursor.pass n).found := enough
    have most (below : last < maxBound) := found_pass_le isLast below n
    constructor
    · by_contra before
      have one := one_le_maxBound
      have noPosition := most (by omega)
      omega
    · intro below
      have fits := most below
      omega
  · exact exists_report_eq_none isToken.isBounded

/-- Between the second position and the third there is room for two members. -/
theorem exists_report_eq_none_iff_pair :
    parseText "{2,3}" = .ok ⟨2, some 3, 2, "{2,3}"⟩ ∧
      ∃ n, ∀ subject, ((cursor ⟨2, some 3, 2, "{2,3}"⟩).pass n).report subject = none := by
  have read : parseText "{2,3}" = .ok ⟨2, some 3, 2, "{2,3}"⟩ := rfl
  refine ⟨read, (exists_report_eq_none_iff read).2 ?_⟩
  rintro last ⟨⟩
  decide

/-- Two members are demanded and the second one is the only one to select; so any number of members
is reported. -/
theorem report_ne_none_second :
    parseText "{2,2}" = .ok ⟨2, some 2, 2, "{2,2}"⟩ ∧
      ∀ n subject, ((cursor ⟨2, some 2, 2, "{2,2}"⟩).pass n).report subject ≠ none := by
  refine ⟨rfl, fun n subject quiet => ?_⟩
  let second : Quantifier := ⟨2, some 2, 2, "{2,2}"⟩
  have enough := (Cursor.report_eq_none_iff.1 quiet).1
  rw [Cursor.quantifier_pass] at enough
  have most : (second.cursor.pass n).found ≤ 2 + 1 - max 2 1 := found_pass_le rfl (by decide) n
  exact absurd (Nat.le_trans enough most) (by decide)

end MixinIndex.Quantifier
