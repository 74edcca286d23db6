import MixinIndex.Proofs.Yaml.Lines

/-!
# Collections in block style

The tokens of the sequences and mappings that are written in lines of their own, from those of their
items and entries.

## Main definitions

* `Yaml.LexesLines`: the lines of a block collection are scanned to given tokens
* `Yaml.LexesEntries`: the same for entries, the first of which may open the mapping

## Main statements

* `Yaml.LexesLines.sequence`, `Yaml.LexesEntries.mapping`: a collection as a value
* `Yaml.LexesEntries.tokenize?`: a document that is a mapping

## Design notes

A line is scanned up to the content of the next one, whatever that is.  So the statement on the
lines of a collection leaves open what follows them, and the last line of an inner collection is
followed by the next key of an outer one.
-/

namespace MixinIndex.Yaml

open Text

/-! ### Lines of collections -/

/-- The items or entries of a block collection at a column are scanned to the given tokens. -/
structure LexesLines (column : Nat) (written : List Char) (tokens : List Token) : Prop where
  allowed : ∀ c ∈ written, isAllowed c = true
  scans : ∀ {emitted : List Token} {outer : List Int} {tail : List Char} {width : Nat}
    {ts : List Token}, width ≤ column → StartsContent tail →
    (∀ line, (Lexer.lineAt (tokens.reverse ++ emitted) column outer tail line width).Yields ts) →
    ∃ width' tail', width' ≤ column ∧ StartsContent tail' ∧
      written ++ (margin width ++ tail) = margin width' ++ tail' ∧
      ∀ line, (Lexer.lineAt emitted column outer tail' line width').Yields ts

/-- The entries of a mapping, the first of which may open the mapping. -/
structure LexesEntries (column : Nat) (written : List Char) (tokens : List Token) : Prop where
  allowed : ∀ c ∈ written, isAllowed c = true
  scans : ∀ {emitted opened : List Token} {indent : Int} {outer around : List Int}
    {tail : List Char} {width : Nat} {ts : List Token},
    Lexer.Opens column .blockMappingStart emitted indent outer opened around → width ≤ column →
    StartsContent tail →
    (∀ line, (Lexer.lineAt (tokens.reverse ++ opened) column around tail line width).Yields ts) →
    ∃ tail', StartsContent tail' ∧ written ++ (margin width ++ tail) = margin column ++ tail' ∧
      ∀ line, (Lexer.lineAt emitted indent outer tail' line column).Yields ts

variable {column : Nat} {written further : List Char} {tokens others : List Token} {word : String}

theorem isAllowed_margin {c : Char} (mem : c ∈ margin column) : isAllowed c = true := by
  rw [List.eq_of_mem_replicate mem]
  decide

theorem LexesLines.nil (column : Nat) : LexesLines column [] [] where
  allowed := by simp
  scans {_ _ tail width _} shallow content next := ⟨width, tail, shallow, content, rfl, next⟩

/-- One more item before the others. -/
theorem LexesLines.item (lexes : Lexes column written tokens)
    (lines : LexesLines column further others) :
    LexesLines column (margin column ++ '-' :: (written ++ further))
      (.blockEntry :: (tokens ++ others)) where
  allowed := by
    intro c mem
    simp only [List.mem_append, List.mem_cons] at mem
    rcases mem with mem | rfl | mem | mem
    · exact isAllowed_margin mem
    · decide
    · exact lexes.allowed c mem
    · exact lines.allowed c mem
  scans {emitted outer tail width ts} shallow content next := by
    obtain ⟨width', tail', shallow', content', split, later⟩ :=
      @lines.scans ((.blockEntry :: tokens).reverse ++ emitted) outer tail width ts shallow content
        fun line => by simpa using next line
    refine ⟨column, '-' :: (written ++ (margin width' ++ tail')), Nat.le_refl _,
      startsContent_cons (by decide), ?_, ?_⟩
    · rw [← split]
      simp
    · intro line
      refine Lexer.Yields.dash (lexes.separated _) ?_
      exact lexes.scans (Nat.lt_succ_self column) shallow' content' fun line => by
        simpa using later line

/-- One more entry before the others. -/
theorem LexesEntries.entry (isWord : IsWord word) (lexes : Lexes column written tokens)
    (lines : LexesLines column further others) :
    LexesEntries column (margin column ++ (word.toList ++ ':' :: (written ++ further)))
      (.key :: .scalar word true :: .value :: (tokens ++ others)) where
  allowed := by
    intro c mem
    simp only [List.mem_append, List.mem_cons] at mem
    rcases mem with mem | mem | rfl | mem | mem
    · exact isAllowed_margin mem
    · exact (isLetter_of_isWordChar (isWord.letters c mem)).allowed
    · decide
    · exact lexes.allowed c mem
    · exact lines.allowed c mem
  scans {emitted opened indent outer around tail width ts} opens shallow content next := by
    obtain ⟨width', tail', shallow', content', split, later⟩ :=
      @lines.scans ((.key :: .scalar word true :: .value :: tokens).reverse ++ opened) around tail
        width ts shallow content fun line => by simpa using next line
    refine ⟨word.toList ++ ':' :: (written ++ (margin width' ++ tail')), isWord.startsContent _, ?_,
      ?_⟩
    · rw [← split]
      simp
    · intro line
      refine Lexer.Yields.key isWord (lexes.separated _) opens fun offset => ?_
      exact lexes.scans (by omega) shallow' content' fun line => by simpa using later line

theorem LexesEntries.lines (entries : LexesEntries column written tokens) :
    LexesLines column written tokens where
  allowed := entries.allowed
  scans {emitted outer _ _ _} shallow content next := by
    obtain ⟨tail', content', split, later⟩ :=
      entries.scans (.inl ⟨rfl, rfl, rfl⟩) shallow content next
    exact ⟨column, tail', Nat.le_refl _, content', split, later⟩

/-- A sequence in the lines after its key, at the same column. -/
theorem LexesLines.sequence (lines : LexesLines column written tokens) :
    Lexes column ('\n' :: written) tokens where
  allowed := List.forall_mem_cons.2 ⟨by decide, lines.allowed⟩
  separated _ := rfl
  scans {emitted outer keyAllowed tail line start offset width ts} _ shallow content next := by
    obtain ⟨width', tail', -, content', split, later⟩ := lines.scans shallow content next
    rw [List.cons_append, split]
    exact Lexer.Yields.of_lineBreak ⟨rfl, rfl, by rintro p ⟨⟩⟩ rfl content' (later _)

/-- A mapping in the lines after its key, deeper than that. -/
theorem LexesEntries.mapping (entries : LexesEntries (column + 2) written tokens) :
    Lexes column ('\n' :: written) (.blockMappingStart :: (tokens ++ [.blockEnd])) where
  allowed := List.forall_mem_cons.2 ⟨by decide, entries.allowed⟩
  separated _ := rfl
  scans {emitted outer keyAllowed tail line start offset width ts} _ shallow content next := by
    have opens : Lexer.Opens (column + 2) .blockMappingStart emitted (column : Int) outer
        (.blockMappingStart :: emitted) (column :: outer) := .inr ⟨by omega, rfl, rfl⟩
    -- the content after the last entry is not as deep as the entries, which ends the mapping
    have closes (line : Nat) : (Lexer.lineAt (tokens.reverse ++ .blockMappingStart :: emitted)
        (column + 2 : Nat) (column :: outer) tail line width).Yields ts := by
      refine Lexer.Yields.close content (by omega) ?_
      simpa using next line
    obtain ⟨tail', content', split, later⟩ := entries.scans opens (by omega) content closes
    rw [List.cons_append, split]
    exact Lexer.Yields.of_lineBreak ⟨rfl, rfl, by rintro p ⟨⟩⟩ rfl content' (later _)

/-- A document that is a mapping. -/
theorem LexesEntries.tokenize? (entries : LexesEntries 0 written tokens) :
    tokenize? (String.ofList written) = some (.blockMappingStart :: (tokens ++ [.blockEnd])) := by
  have opens : Lexer.Opens 0 .blockMappingStart [] (-1) [] [.blockMappingStart] [-1] :=
    .inr ⟨by decide, rfl, rfl⟩
  have closes (line : Nat) : (Lexer.lineAt (tokens.reverse ++ [.blockMappingStart]) (0 : Nat) [-1]
      [] line 0).Yields (.blockMappingStart :: (tokens ++ [.blockEnd])) := by
    have ends : (Lexer.lineAt (tokens.reverse ++ [.blockMappingStart]) 0 [-1] [] line 0).Yields _ :=
      Lexer.yields_blockEnd
    simpa using ends
  obtain ⟨tail', -, split, scans⟩ :=
    entries.scans opens (Nat.le_refl 0) (by simp [StartsContent]) closes
  have same : written = tail' := by simpa using split
  subst same
  unfold Yaml.tokenize?
  rw [String.toList_ofList, if_pos (List.all_eq_true.2 entries.allowed)]
  exact scans 0 _ (Nat.le_refl _)

theorem Lexer.token?_flowSequenceStart {s : Lexer} {cs : List Char} {bound : Nat}
    (inside : 0 < s.column) : s.token? bound '[' cs = s.flowStart? .flowSequenceStart := by
  simp [Lexer.token?, Nat.ne_of_gt inside]

/-- A sequence without items. -/
theorem Lexes.emptySequence (column : Nat) :
    Lexes column " []\n".toList [.flowSequenceStart, .flowSequenceEnd] := by
  have allowed : ['[', ']'].all isAllowed = true := rfl
  refine @Lexes.scalar column '[' [']'] _ (List.all_eq_true.1 allowed)
    (startsContent_cons (by decide)) ?_
  intro emitted outer keyAllowed tail line start offset width bound ts deeper shallow content enough
    next
  obtain ⟨pending, loose, saved⟩ := Lexer.saveKey?_value emitted deeper outer keyAllowed
    ('[' :: ']' :: '\n' :: (margin width ++ tail)) line offset
  -- between the brackets the scan is in a flow collection, which remembers the node outside
  let opened : Lexer :=
    { Lexer.inBlock (.flowSequenceStart :: emitted) column outer true with
      rest := ']' :: '\n' :: (margin width ++ tail), line, column := start + 1,
      offset := offset + 1, outerPending := [pending] }
  let closed : Lexer :=
    { Lexer.inBlock (.flowSequenceEnd :: .flowSequenceStart :: emitted) column outer false
        pending with
      rest := '\n' :: (margin width ++ tail), line, column := start + 2, offset := offset + 2 }
  have isDone : closed.IsDone (closed.line + 1) := by
    refine ⟨rfl, rfl, fun p mem => ?_⟩
    obtain ⟨notRequired, here, -⟩ := loose p mem
    exact ⟨notRequired, Nat.lt_succ_of_le (Nat.le_of_eq here)⟩
  have ended : closed.Yields ts := Lexer.Yields.of_lineBreak isDone rfl content (next _)
  have settles : opened.Settles opened := by
    have bracket : StartsContent opened.rest := startsContent_cons (by decide)
    refine ⟨Nat.le_refl _, fun bound _ => ?_⟩
    rw [Lexer.skip_of_startsContent bracket]
    unfold Lexer.dropStale?
    cases pending with
    | none => simp [opened, Lexer.inBlock]
    | some p =>
        obtain ⟨-, rfl, rfl⟩ := loose p rfl
        simp [opened, Lexer.inBlock, Lexer.maxKeyLength]
  refine ⟨opened, ?_, by simp [opened], ?_⟩
  · rw [Lexer.token?_flowSequenceStart (Nat.lt_of_le_of_lt (Nat.zero_le column) deeper)]
    unfold Lexer.flowStart?
    simp only [List.cons_append, List.nil_append, saved]
    rfl
  · refine Lexer.Yields.step settles rfl (by decide) fun bound _ => ⟨closed, ?_, ?_, ended⟩
    · rfl
    · simp [opened, closed]

end MixinIndex.Yaml
