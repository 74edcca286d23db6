import MixinIndex.Proofs.Yaml.Literal
import MixinIndex.Proofs.Yaml.Quoted

/-!
# Styles of scalars

The way a text is written depends on what occurs in it.  Whatever the way, the text is one scalar
token, and the scalar stands for the text.

## Main statements

* `Yaml.resolve?_eq_string`: a plain scalar that is a text is itself
* `Yaml.Lexes.text`: a text is scanned to one scalar
* `Yaml.scalar?_text`: that scalar stands for the text
-/

namespace MixinIndex.Yaml

open Text

variable {cs : List Char}

/-! ### Plain texts -/

/-- A plain scalar that stands for a text stands for itself. -/
theorem resolve?_eq_string {text found : String} (isText : resolve? text = some (.string found)) :
    found = text := by
  revert isText
  fun_cases resolve? text <;> grind

theorem resolve?_of_readsOtherwise {text : String} (reads : readsOtherwise text = false) :
    resolve? text = some (.string text) := by
  unfold readsOtherwise at reads
  rw [Bool.or_eq_false_iff] at reads
  obtain ⟨-, isText⟩ := reads
  split at isText
  next found same => rw [same, resolve?_eq_string same]
  next => exact Bool.noConfusion isText

/-! ### Features of a text -/

theorem features_special (special : (features cs).special = false) :
    ∀ c ∈ cs, isPlainChar c = true := by
  simpa [features] using special

theorem isPlain_of_features (nonempty : cs ≠ []) (edges : (features cs).edges = false)
    (breaks : (features cs).breaks = false) (special : (features cs).special = false)
    (indicators : (features cs).indicators = false) : IsPlain cs := by
  simp only [features, Bool.or_eq_false_iff] at edges breaks indicators
  obtain ⟨⟨-, lead⟩, inner⟩ := indicators
  obtain ⟨first, last⟩ := edges
  have noBreak : ∀ c ∈ cs, isBreak c = false := by simpa using breaks
  refine ⟨fun c mem => ⟨features_special special c mem, noBreak c mem⟩, lead, inner, ?_, ?_⟩
  · obtain ⟨c, cs, rfl⟩ := List.exists_cons_of_ne_nil nonempty
    have notEdge : ¬ c = ' ' ∧ isBreak c = false := by simpa using first
    exact ⟨c, rfl, notEdge.1⟩
  · intro space
    simp [space] at last

/-- What is known of a text that is written in some way. -/
theorem style_cases (text : String) :
    (style text = .plain ∧ resolve? text = some (.string text) ∧ IsPlain text.toList) ∨
    (style text = .singleQuoted ∧ (∀ c ∈ text.toList, isPlainChar c = true ∧ c ≠ '\n') ∧
      AreRuns isBreak text.toList) ∨
    style text = .doubleQuoted ∨
    (style text = .literal ∧ text.toList ≠ [] ∧ ∀ c ∈ text.toList, isPlainChar c = true) := by
  unfold style
  by_cases feed : '\n' ∈ text.toList
  · rw [if_pos feed]
    split_ifs with unfit
    · exact .inr (.inr (.inl rfl))
    · simp only [Bool.or_eq_true, not_or, Bool.not_eq_true] at unfit
      exact .inr (.inr (.inr ⟨rfl, List.ne_nil_of_mem feed, features_special unfit.2.2⟩))
  · rw [if_neg feed]
    split_ifs with unfit escaped
    · exact .inr (.inr (.inl rfl))
    · simp only [Bool.or_eq_true, not_or, Bool.not_eq_true] at escaped
      obtain ⟨⟨spaceBreak, special⟩, breakSpace⟩ := escaped
      refine .inr (.inl ⟨rfl, fun c mem => ⟨features_special special c mem, ?_⟩,
        areRuns spaceBreak breakSpace⟩)
      rintro rfl
      exact feed mem
    · simp only [Bool.or_eq_true, not_or, Bool.not_eq_true] at unfit
      obtain ⟨⟨⟨⟨reads, edges⟩, breaks⟩, -, special⟩, indicators⟩ := unfit
      have isText := resolve?_of_readsOtherwise reads
      refine .inl ⟨rfl, isText, isPlain_of_features ?_ edges breaks special indicators⟩
      intro empty
      rw [String.toList_eq_nil_iff.1 empty] at isText
      exact absurd isText (by simp [resolve?])

/-! ### All texts -/

/-- A text on the line of its key is scanned to one scalar. -/
theorem Lexes.text (text : String) (column : Nat) :
    Lexes column (' ' :: (scalarLine column text).toList)
      [.scalar text (style text == .plain)] := by
  have text_eq : String.ofList text.toList = text := String.ofList_toList
  unfold scalarLine
  rcases style_cases text with ⟨same, -, plain⟩ | ⟨same, chars, runs⟩ | same |
    ⟨same, nonempty, chars⟩
  · have lexes := Lexes.plain plain column
    rw [text_eq] at lexes
    simp only [same, String.toList_append]
    exact lexes
  · have lexes := Lexes.singleQuoted chars runs column
    rw [text_eq] at lexes
    simp only [same, String.toList_append, String.toList_ofList]
    exact lexes
  · have lexes := Lexes.doubleQuoted text.toList column
    rw [text_eq, List.append_assoc] at lexes
    simp only [same, String.toList_append, String.toList_ofList]
    exact lexes
  · have lexes := Lexes.literal nonempty chars column
    have closing : (if text.toList.getLast?.any isBreak then "" else "\n").toList =
        closingBreak text.toList := by
      unfold closingBreak
      split_ifs <;> rfl
    rw [text_eq] at lexes
    simp only [same, String.toList_append, String.toList_ofList, closing, List.append_assoc]
    exact lexes

/-- The scalar that a text is written as stands for the text. -/
theorem scalar?_text (text : String) :
    scalar? text (style text == .plain) = some (.string text) := by
  rcases style_cases text with ⟨same, isText, -⟩ | ⟨same, -⟩ | same | ⟨same, -⟩
  · rw [same]
    exact isText
  all_goals
    rw [same]
    rfl

end MixinIndex.Yaml
