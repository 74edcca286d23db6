/-!
# Splitting at a character

Texts are cut at the first or at the last occurrence of a separator.  Each cut is described by
one equivalence: the two parts with the separator between them are the text, and the part on the
near side does not hold the separator.

## Main definitions

* `splitFirst?`, `splitLast?`: the parts before and after one occurrence
* `afterLast`: what follows the last occurrence, the whole text if there is none
* `splitAll`: all parts between separators
-/

namespace MixinIndex.Text

/-- The parts before and after the first `sep`. -/
def splitFirst? (sep : Char) : List Char → Option (List Char × List Char)
  | [] => none
  | c :: cs =>
    if c = sep then some ([], cs) else (splitFirst? sep cs).map fun p => (c :: p.1, p.2)

/-- The parts before and after the last `sep`. -/
def splitLast? (sep : Char) : List Char → Option (List Char × List Char)
  | [] => none
  | c :: cs =>
    match splitLast? sep cs with
    | some p => some (c :: p.1, p.2)
    | none => if c = sep then some ([], cs) else none

theorem splitFirst?_eq_none {sep : Char} {cs : List Char} :
    splitFirst? sep cs = none ↔ sep ∉ cs := by
  induction cs with
  | nil => simp [splitFirst?]
  | cons c cs ih =>
    by_cases h : c = sep
    · simp [splitFirst?, h]
    · simp [splitFirst?, h, ih, Ne.symm h]

theorem splitFirst?_eq_some {sep : Char} {cs before after : List Char} :
    splitFirst? sep cs = some (before, after) ↔ cs = before ++ sep :: after ∧ sep ∉ before := by
  induction cs generalizing before with
  | nil => simp [splitFirst?]
  | cons c cs ih =>
    by_cases h : c = sep
    · subst h
      cases before with
      | nil => simp [splitFirst?, eq_comm]
      | cons b bs => simp [splitFirst?]; intro hb; simp [hb]
    · cases before with
      | nil => simp [splitFirst?, h]
      | cons b bs => simp [splitFirst?, h, ih]; grind

theorem splitLast?_eq_none {sep : Char} {cs : List Char} :
    splitLast? sep cs = none ↔ sep ∉ cs := by
  induction cs with
  | nil => simp [splitLast?]
  | cons c cs ih =>
    cases hs : splitLast? sep cs with
    | none => grind [splitLast?]
    | some p => grind [splitLast?]

theorem splitLast?_eq_some {sep : Char} {cs before after : List Char} :
    splitLast? sep cs = some (before, after) ↔ cs = before ++ sep :: after ∧ sep ∉ after := by
  induction cs generalizing before with
  | nil => simp [splitLast?]
  | cons c cs ih =>
    have hn : splitLast? sep cs = none ↔ sep ∉ cs := splitLast?_eq_none
    cases hs : splitLast? sep cs with
    | none =>
      have hfree : sep ∉ cs := hn.1 hs
      cases before <;> grind [splitLast?]
    | some p =>
      cases before with
      | nil =>
        simp only [splitLast?, hs]
        have : sep ∈ cs := by
          by_cases hm : sep ∈ cs
          · exact hm
          · simp [hn.2 hm] at hs
        grind
      | cons b bs =>
        have := @ih bs
        simp only [splitLast?, hs]
        grind

/-- A text is cut where a property first fails. -/
theorem span_append {p : Char → Bool} {before after : List Char}
    (inside : ∀ c ∈ before, p c = true) (stops : ∀ c ∈ after.head?, p c = false) :
    (before ++ after).takeWhile p = before ∧ (before ++ after).dropWhile p = after := by
  rw [List.takeWhile_append_of_pos inside, List.dropWhile_append_of_pos inside]
  cases after with
  | nil => simp
  | cons c after => simp [stops c rfl]

/-- A text is cut where a character first stands. -/
theorem span_ne {sep : Char} {before after : List Char} (notMem : sep ∉ before)
    (starts : ∀ c ∈ after.head?, c = sep) :
    (before ++ after).takeWhile (· != sep) = before ∧
      (before ++ after).dropWhile (· != sep) = after := by
  apply span_append
  · intro c mem
    rw [bne_iff_ne]
    rintro rfl
    exact notMem mem
  · intro c head
    rw [starts c head]
    exact bne_self_eq_false sep

/-- What follows the last `sep`, or the whole text where there is none. -/
def afterLast (sep : Char) (cs : List Char) : List Char :=
  match splitLast? sep cs with
  | some (_, after) => after
  | none => cs

/-- What precedes the last `sep`, or nothing where there is none. -/
def beforeLast (sep : Char) (cs : List Char) : List Char :=
  match splitLast? sep cs with
  | some (before, _) => before
  | none => []

/-- The parts between separators, in order; a text without a separator is one part. -/
def splitAll (sep : Char) : List Char → List (List Char)
  | [] => [[]]
  | c :: cs =>
    if c = sep then [] :: splitAll sep cs
    else
      match splitAll sep cs with
      | [] => [[c]]
      | part :: parts => (c :: part) :: parts

@[simp] theorem splitAll_nil (sep : Char) : splitAll sep [] = [[]] := rfl

theorem splitAll_ne_nil (sep : Char) (cs : List Char) : splitAll sep cs ≠ [] := by
  cases cs with
  | nil => simp
  | cons c cs =>
    rw [splitAll]
    split
    · simp
    · split <;> simp

/-- A separator between two texts separates their parts. -/
theorem splitAll_append (sep : Char) (before after : List Char) :
    splitAll sep (before ++ sep :: after) = splitAll sep before ++ splitAll sep after := by
  induction before with
  | nil => simp [splitAll]
  | cons c cs ih =>
    by_cases same : c = sep
    · simp [splitAll, same, ih]
    · obtain ⟨part, parts, split⟩ := List.exists_cons_of_ne_nil (splitAll_ne_nil sep cs)
      simp [splitAll, same, ih, split]

/-- The parts are those of the library, for which the inverse is known. -/
theorem splitAll_eq_splitOn (sep : Char) (cs : List Char) : splitAll sep cs = cs.splitOn sep := by
  induction cs with
  | nil => simp [splitAll]
  | cons c cs ih =>
    have step : (c :: cs).splitOn sep = if c == sep then [] :: cs.splitOn sep
        else (cs.splitOn sep).modifyHead (c :: ·) :=
      List.splitOnP_cons_eq_if_modifyHead c cs
    obtain ⟨part, parts, split⟩ := List.exists_cons_of_ne_nil (List.splitOn_ne_nil sep cs)
    simp [splitAll, ih, step, split]

end MixinIndex.Text
