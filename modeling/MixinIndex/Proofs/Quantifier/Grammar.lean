import Mathlib.Logic.Basic
import Mathlib.Tactic.SplitIfs
import MixinIndex.Proofs.Outcome
import MixinIndex.Quantifier

/-!
# The grammar of quantifiers

The tokens of the table of quantifiers, as texts with the quantifiers that they stand for, and the
reader accepts these tokens and no others.

## Main definitions

* `Quantifier.IsBound`: the digits of a number that is not too large
* `Quantifier.IsBounds`: what stands between braces
* `Quantifier.IsToken`: a token, possibly absent, and its quantifier

## Main statements

* `Quantifier.parse_eq_ok_iff`: the reader reads tokens
* `Quantifier.IsToken.mem`: the characters of tokens
-/

namespace MixinIndex.Quantifier

open Text

/-! ### Tokens -/

/-- The decimal digits of a bound, and the bound. -/
structure IsBound (digits : List Char) (n : Nat) : Prop where
  nonempty : digits ≠ []
  areDigits : ∀ c ∈ digits, c.isDigit = true
  value : digitsValue digits = n
  fits : n ≤ maxBound

/-- What stands between braces: first position, last position and minimum. -/
inductive IsBounds : List Char → Nat × Option Nat × Nat → Prop
  | exactly {digits : List Char} {n : Nat} (bound : IsBound digits n) :
      IsBounds digits (n, some n, 0)
  | atLeast {lower : List Char} {l : Nat} (bound : IsBound lower l) :
      IsBounds (lower ++ [',']) (l, none, l)
  | atMost {upper : List Char} {u : Nat} (bound : IsBound upper u) :
      IsBounds (',' :: upper) (1, some u, 0)
  | between {lower upper : List Char} {l u : Nat} (least : IsBound lower l)
      (greatest : IsBound upper u) (ordered : l ≤ u) :
      IsBounds (lower ++ ',' :: upper) (l, some u, l)

/-- A token, possibly absent, and the quantifier that it stands for. -/
inductive IsToken : List Char → Quantifier → Prop
  | absent : IsToken [] implicit
  | star : IsToken ['*'] ⟨1, none, 0, "*"⟩
  | plus : IsToken ['+'] ⟨1, none, 1, "+"⟩
  | braces {inner : List Char} {first : Nat} {last : Option Nat} {minimum : Nat}
      (bounds : IsBounds inner (first, last, minimum)) :
      IsToken ('{' :: (inner ++ ['}']))
        ⟨first, last, minimum, String.ofList ('{' :: (inner ++ ['}']))⟩

/-- A bound holds no other character than digits. -/
theorem IsBound.notMem {digits : List Char} {n : Nat} (h : IsBound digits n) {c : Char}
    (notDigit : c.isDigit = false) : c ∉ digits := by
  intro mem
  have := h.areDigits c mem
  simp_all

/-- Bounds are written with digits and a comma. -/
theorem IsBounds.mem {inner : List Char} {bounds : Nat × Option Nat × Nat}
    (h : IsBounds inner bounds) : ∀ c ∈ inner, c.isDigit = true ∨ c = ',' := by
  intro c mem
  cases h with
  | exactly bound => exact .inl (bound.areDigits c mem)
  | atLeast bound =>
      rcases List.mem_append.1 mem with mem | mem
      · exact .inl (bound.areDigits c mem)
      · exact .inr (List.mem_singleton.1 mem)
  | atMost bound =>
      rcases List.mem_cons.1 mem with rfl | mem
      · exact .inr rfl
      · exact .inl (bound.areDigits c mem)
  | between least greatest =>
      rcases List.mem_append.1 mem with mem | mem
      · exact .inl (least.areDigits c mem)
      · rcases List.mem_cons.1 mem with rfl | mem
        · exact .inr rfl
        · exact .inl (greatest.areDigits c mem)

/-- Tokens are written with digits and five other characters. -/
theorem IsToken.mem {token : List Char} {q : Quantifier} (h : IsToken token q) :
    ∀ c ∈ token, c.isDigit = true ∨ c ∈ ['*', '+', '{', '}', ','] := by
  intro c mem
  cases h with
  | absent => cases mem
  | star => exact .inr (by simp_all)
  | plus => exact .inr (by simp_all)
  | braces bounds =>
      rcases List.mem_cons.1 mem with rfl | mem
      · exact .inr (by decide)
      · rcases List.mem_append.1 mem with mem | mem
        · rcases bounds.mem c mem with digit | rfl
          · exact .inl digit
          · exact .inr (by decide)
        · exact .inr (by simp_all)

/-- The token is kept as it is written. -/
theorem IsToken.token_eq {token : List Char} {q : Quantifier} (h : IsToken token q) :
    q.token = String.ofList token := by
  cases h <;> rfl

/-! ### The reader -/

/-- A bound is read exactly if it is one; where it stands does not matter. -/
theorem parseBound_eq_ok_iff {digits : List Char} {offset n : Nat} :
    parseBound digits offset = .ok n ↔ IsBound digits n := by
  rw [parseBound]
  constructor
  · intro read
    split_ifs at read with malformed tooLarge
    cases read
    simp only [not_or, not_not, List.all_eq_true] at malformed
    exact ⟨malformed.1, malformed.2, rfl, Nat.le_of_not_lt tooLarge⟩
  · rintro ⟨nonempty, areDigits, rfl, fits⟩
    rw [if_neg, if_neg (Nat.not_lt.2 fits)]
    simpa [nonempty] using areDigits

/-- Bounds are read as they are written, the lower one being no greater than the upper. -/
theorem parseBounds_eq_ok_iff {inner : List Char} {bounds : Nat × Option Nat × Nat} :
    parseBounds inner = .ok bounds ↔ IsBounds inner bounds := by
  constructor
  · intro read
    unfold parseBounds at read
    split at read
    · obtain ⟨n, digits, same⟩ := Except.bind_eq_ok_iff.1 read
      cases same
      exact .exactly (parseBound_eq_ok_iff.1 digits)
    · cases read
    · rename_i upper _ found
      obtain ⟨rfl, -⟩ := splitFirst?_eq_some.1 found
      obtain ⟨u, digits, same⟩ := Except.bind_eq_ok_iff.1 read
      cases same
      exact .atMost (parseBound_eq_ok_iff.1 digits)
    · rename_i lower _ found
      obtain ⟨rfl, -⟩ := splitFirst?_eq_some.1 found
      obtain ⟨l, digits, same⟩ := Except.bind_eq_ok_iff.1 read
      cases same
      exact .atLeast (parseBound_eq_ok_iff.1 digits)
    · rename_i lower upper _ _ _ found
      obtain ⟨rfl, -⟩ := splitFirst?_eq_some.1 found
      obtain ⟨l, lowerDigits, read⟩ := Except.bind_eq_ok_iff.1 read
      obtain ⟨u, upperDigits, read⟩ := Except.bind_eq_ok_iff.1 read
      split_ifs at read with inverted
      cases read
      exact .between (parseBound_eq_ok_iff.1 lowerDigits) (parseBound_eq_ok_iff.1 upperDigits)
        (Nat.le_of_not_lt inverted)
  · intro isBounds
    -- no bound holds a comma, so the first comma is the one that the bounds were joined with
    have comma : ','.isDigit = false := by decide
    cases isBounds with
    | @exactly digits n bound =>
        rw [parseBounds, splitFirst?_eq_none.2 (bound.notMem comma)]
        exact Except.bind_eq_ok_iff.2 ⟨n, parseBound_eq_ok_iff.2 bound, rfl⟩
    | @atLeast lower l bound =>
        have found : splitFirst? ',' (lower ++ [',']) = some (lower, []) :=
          splitFirst?_eq_some.2 ⟨rfl, bound.notMem comma⟩
        rw [parseBounds, found]
        obtain ⟨d, ds, rfl⟩ := List.exists_cons_of_ne_nil bound.nonempty
        exact Except.bind_eq_ok_iff.2 ⟨l, parseBound_eq_ok_iff.2 bound, rfl⟩
    | @atMost upper u bound =>
        have found : splitFirst? ',' (',' :: upper) = some ([], upper) := by simp [splitFirst?]
        rw [parseBounds, found]
        obtain ⟨d, ds, rfl⟩ := List.exists_cons_of_ne_nil bound.nonempty
        exact Except.bind_eq_ok_iff.2 ⟨u, parseBound_eq_ok_iff.2 bound, rfl⟩
    | @between lower upper l u least greatest ordered =>
        have found : splitFirst? ',' (lower ++ ',' :: upper) = some (lower, upper) :=
          splitFirst?_eq_some.2 ⟨rfl, least.notMem comma⟩
        rw [parseBounds, found]
        obtain ⟨d, ds, rfl⟩ := List.exists_cons_of_ne_nil least.nonempty
        obtain ⟨e, es, rfl⟩ := List.exists_cons_of_ne_nil greatest.nonempty
        refine Except.bind_eq_ok_iff.2 ⟨l, parseBound_eq_ok_iff.2 least, ?_⟩
        refine Except.bind_eq_ok_iff.2 ⟨u, parseBound_eq_ok_iff.2 greatest, ?_⟩
        rw [if_neg (Nat.not_lt.2 ordered)]
        rfl

theorem inBraces?_eq_some {token inner : List Char} :
    inBraces? token = some inner ↔ token = '{' :: (inner ++ ['}']) := by
  constructor
  · intro found
    unfold inBraces? at found
    split at found
    · split_ifs at found with closed
      obtain ⟨body, rfl⟩ := List.getLast?_eq_some_iff.1 closed
      simpa using found
    · cases found
  · rintro rfl
    simp [inBraces?]

/-- A token is read as the quantifier that it stands for, and no other text is read. -/
theorem parse_eq_ok_iff {token : List Char} {q : Quantifier} :
    parse token = .ok q ↔ IsToken token q := by
  constructor
  · intro read
    unfold parse at read
    split at read
    · cases read
      exact .absent
    · cases read
      exact .star
    · cases read
      exact .plus
    · split at read
      · cases read
      · rename_i inner found
        obtain ⟨⟨first, last, minimum⟩, bounds, same⟩ := Except.map_eq_ok_iff.1 read
        obtain rfl := inBraces?_eq_some.1 found
        cases same
        exact .braces (parseBounds_eq_ok_iff.1 bounds)
  · intro isToken
    cases isToken with
    | absent => rfl
    | star => rfl
    | plus => rfl
    | @braces inner first last minimum bounds =>
        have found : inBraces? ('{' :: (inner ++ ['}'])) = some inner := inBraces?_eq_some.2 rfl
        have read : parseBounds inner = .ok (first, last, minimum) := parseBounds_eq_ok_iff.2 bounds
        simp [parse, found, read, Except.map]

end MixinIndex.Quantifier
