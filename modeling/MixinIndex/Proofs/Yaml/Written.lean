import MixinIndex.Proofs.Yaml.Collections
import MixinIndex.Proofs.Yaml.Structure
import MixinIndex.Proofs.Yaml.Styles

/-!
# What is written is read back

A document that is a mapping reads as the tree that it was written from, if its keys are plain words
and its values are texts, sequences of texts, numbers that are read as such, or such mappings.

## Main definitions

* `Yaml.ReadsBack`: a value is read back where it is written
* `Yaml.EntriesReadBack`: the same for the entries of a mapping

## Main statements

* `Yaml.ReadsBack.text`, `Yaml.ReadsBack.texts`, `Yaml.ReadsBack.mapping`: values that are read back
* `Yaml.read?_write`: a document is read back
-/

namespace MixinIndex.Yaml

open Text

/-- A value of a key or item is scanned to the tokens of a node, and the events of that node build
the value. -/
inductive ReadsBack (loose : Bool) (depth : Nat) (value : Yaml) : Prop where
  | intro {tokens : List Token} {marks : List Mark}
    (lexes : ∀ column, Lexes column (writeValue column value).toList tokens)
    (parses : Parses loose tokens marks) (builds : Builds depth marks value) :
    ReadsBack loose depth value

/-- The same for the items of a sequence. -/
inductive ItemsReadBack (depth : Nat) (items : List Yaml) : Prop where
  | intro {tokens : List Token} {marks : List Mark}
    (lexes : ∀ column, LexesLines column (writeItems column items).toList tokens)
    (nonempty : items ≠ [] → tokens ≠ [])
    (parses : Repeats .looseItem .blockEntry tokens marks)
    (builds : BuildsItems depth marks items) : ItemsReadBack depth items

/-- The same for the entries of a mapping, which have different keys. -/
inductive EntriesReadBack (depth : Nat) (entries : List (Yaml × Yaml)) : Prop where
  | intro {tokens : List Token} {marks : List Mark}
    (lexes : ∀ column, LexesLines column (writeEntries column entries).toList tokens)
    (opens : entries ≠ [] → ∀ column,
      LexesEntries column (writeEntries column entries).toList tokens)
    (parses : Repeats .blockKey .key tokens marks) (builds : BuildsEntries depth marks entries)
    (distinct : mapping? entries = some entries) : EntriesReadBack depth entries

variable {loose : Bool} {depth : Nat} {value : Yaml} {items : List Yaml}
  {entries : List (Yaml × Yaml)}

/-! ### Scalars -/

theorem ReadsBack.text (loose : Bool) (depth : Nat) (text : String) :
    ReadsBack loose depth (.string text) := by
  refine .intro (fun column => ?_) (Parses.scalar loose _ _)
    (Builds.scalar (scalar?_text text) depth)
  rw [writeValue, String.toList_append]
  exact Lexes.text text column

/-- A number in a notation that is read as it. -/
theorem ReadsBack.int {n : Int} (plain : IsPlain (toString n).toList)
    (isNumber : resolve? (toString n) = some (.int n)) (loose : Bool) (depth : Nat) :
    ReadsBack loose depth (.int n) := by
  have isValue : scalar? (toString n) true = some (.int n) := isNumber
  refine .intro (fun column => ?_) (Parses.scalar loose (toString n) true)
    (Builds.scalar isValue depth)
  have lexes := Lexes.plain plain column
  rw [String.ofList_toList] at lexes
  show Lexes column (" " ++ toString n ++ "\n").toList _
  rw [String.toList_append, String.toList_append]
  exact lexes

/-! ### Sequences -/

theorem ItemsReadBack.nil (depth : Nat) : ItemsReadBack depth [] :=
  .intro LexesLines.nil (fun nonempty => absurd rfl nonempty) (.nil _ _) (.nil depth)

theorem toList_writeItems (column : Nat) (item : Yaml) (items : List Yaml) :
    (writeItems column (item :: items)).toList = margin column ++ '-' ::
      ((writeValue column item).toList ++ (writeItems column items).toList) := by
  simp [writeItems, spaces]

theorem ItemsReadBack.cons (item : ReadsBack false depth value)
    (others : ItemsReadBack depth items) : ItemsReadBack depth (value :: items) := by
  obtain ⟨lexes, parses, builds⟩ := item
  obtain ⟨lexesAll, -, parsesAll, buildsAll⟩ := others
  refine .intro (fun column => ?_) (fun _ => List.cons_ne_nil _ _) (.item parses parsesAll)
    (.cons builds buildsAll)
  rw [toList_writeItems]
  exact .item (lexes column) (lexesAll column)

theorem ItemsReadBack.texts (depth : Nat) (texts : List String) :
    ItemsReadBack depth (texts.map .string) := by
  induction texts with
  | nil => exact .nil depth
  | cons text texts ih => exact .cons (.text false depth text) ih

theorem ReadsBack.texts (depth : Nat) (texts : List String) :
    ReadsBack true (depth + 1) (.sequence (texts.map .string)) := by
  cases texts with
  | nil =>
      refine .intro (fun column => ?_) (.emptySequence true) (Builds.sequence (.nil depth))
      exact Lexes.emptySequence column
  | cons text texts =>
      obtain ⟨lexes, nonempty, parses, builds⟩ := ItemsReadBack.texts depth (text :: texts)
      refine .intro (fun column => ?_) (.sequence parses (nonempty (List.cons_ne_nil _ _)))
        (.sequence builds)
      show Lexes column ("\n" ++ writeItems column ((text :: texts).map .string)).toList _
      rw [String.toList_append]
      exact (lexes column).sequence

/-! ### Mappings -/

theorem EntriesReadBack.nil (depth : Nat) : EntriesReadBack depth [] :=
  .intro LexesLines.nil (fun nonempty => absurd rfl nonempty) (.nil _ _) (.nil depth) rfl

theorem toList_writeEntries (column : Nat) (word : String) (value : Yaml)
    (entries : List (Yaml × Yaml)) :
    (writeEntries column ((.string word, value) :: entries)).toList = margin column ++
      (word.toList ++ ':' :: ((writeValue column value).toList ++
        (writeEntries column entries).toList)) := by
  simp [writeEntries, spaces]

theorem EntriesReadBack.cons {word : String} (isWord : IsWord word)
    (entry : ReadsBack true depth value) (fresh : hasKey (.string word) entries = false)
    (others : EntriesReadBack depth entries) :
    EntriesReadBack depth ((.string word, value) :: entries) := by
  obtain @⟨tokens, _, lexes, parses, builds⟩ := entry
  obtain @⟨further, _, lexesAll, -, parsesAll, buildsAll, distinct⟩ := others
  have isKey : scalar? word true = some (.string word) := isWord.isText
  have key : Builds depth [.scalar word true] (.string word) := .scalar isKey depth
  have opens (column : Nat) : LexesEntries column
      (writeEntries column ((.string word, value) :: entries)).toList
      (.key :: .scalar word true :: .value :: (tokens ++ further)) := by
    rw [toList_writeEntries]
    exact .entry isWord (lexes column) (lexesAll column)
  refine .intro (fun column => (opens column).lines) (fun _ => opens) (.entry word parses parsesAll)
    (.cons key builds buildsAll) ?_
  rw [mapping?, if_neg (Bool.eq_false_iff.1 fresh), distinct]
  rfl

/-- A mapping with at least one entry. -/
theorem ReadsBack.mapping (readsBack : EntriesReadBack depth entries) (nonempty : entries ≠ [])
    (loose : Bool) : ReadsBack loose (depth + 1) (.mapping entries) := by
  obtain ⟨-, opens, parses, builds, distinct⟩ := readsBack
  refine .intro (fun column => ?_) (.mapping loose parses) (.mapping builds distinct)
  obtain ⟨entry, entries, rfl⟩ := List.exists_cons_of_ne_nil nonempty
  show Lexes column ("\n" ++ writeEntries (column + 2) (entry :: entries)).toList _
  rw [String.toList_append]
  exact (opens nonempty (column + 2)).mapping

/-- A document that is a mapping is read back from its text. -/
theorem read?_write (readsBack : EntriesReadBack (maxDepth - 1) entries) (nonempty : entries ≠ []) :
    read? (write (.mapping entries)) = some (.mapping entries) := by
  obtain ⟨-, opens, parses, builds, distinct⟩ := readsBack
  have scanned := (opens nonempty 0).tokenize?
  rw [String.ofList_toList] at scanned
  have tree := tree?_marks (Builds.mapping builds distinct)
  unfold read?
  rw [write, scanned]
  simp only [Option.bind_eq_bind, Option.bind_some, events?_mapping parses]
  exact tree

end MixinIndex.Yaml
