import Mathlib.Data.List.Induction
import MixinIndex.Proofs.Yaml.Lines

/-!
# Plain scalars on a line

A text without quotes is scanned word by word.  It ends at the break of its line, since what follows
is not deeper than the collection around it.

## Main definitions

* `Yaml.IsPlain`: a text that can be written without quotes
* `Yaml.AreWords`: a text cut at its spaces

## Main statements

* `Yaml.Lexer.fold?_breaks`: the run of breaks before a line, and its margin
* `Yaml.Lexes.plain`: the scalar as a value

## Design notes

What the writer checks of a text is about neighbours anywhere in it, and what the reader checks is
about the places where its words start and end.  `IsRead` ties the two: the text is what was read,
some spaces, and what is left.
-/

namespace MixinIndex.Yaml

open Text

/-! ### Characters -/

/-- A line break that a scalar keeps as it is. -/
def isKept (c : Char) : Bool := c == '\n' || c.toNat == 0x2028 || c.toNat == 0x2029

theorem isBreak_of_isKept {c : Char} (kept : isKept c = true) : isBreak c = true := by
  simp only [isKept, isBreak, Bool.or_eq_true] at kept ⊢
  rcases kept with (kept | kept) | kept
  · exact .inl (.inl (.inl (.inl kept)))
  · exact .inl (.inr kept)
  · exact .inr kept

theorem isGap_of_isBreak {c : Char} (ends : isBreak c = true) : isGap c = false := by
  by_contra gap
  rw [Bool.not_eq_false, isGap, Bool.or_eq_true, beq_iff_eq, beq_iff_eq] at gap
  rcases gap with rfl | rfl
  · exact absurd ends (by decide)
  · exact absurd ends (by decide)

theorem isKept_of_isPlainChar {c : Char} (plain : isPlainChar c = true)
    (ends : isBreak c = true) : isKept c = true := by
  simp only [isBreak, Bool.or_eq_true, beq_iff_eq] at ends
  rcases ends with (((rfl | rfl) | next) | line) | paragraph
  · decide
  · exact absurd plain (by decide)
  · simp [isPlainChar, next] at plain
  · simp [isKept, line]
  · simp [isKept, paragraph]

theorem takeBreak_of_isKept {c : Char} {cs : List Char} (kept : isKept c = true) :
    takeBreak (c :: cs) = ([c], cs) := by
  unfold takeBreak
  split
  next cs' same =>
    obtain ⟨rfl, -⟩ := List.cons.inj same
    exact absurd kept (by decide)
  next d ds noReturn same =>
    obtain ⟨rfl, rfl⟩ := List.cons.inj same
    simp only [isKept, Bool.or_eq_true, beq_iff_eq] at kept
    rcases kept with (rfl | line) | paragraph
    · rfl
    · simp [line]
    · simp [paragraph]
  next same => exact absurd same (List.cons_ne_nil _ _)

theorem isGap_eq_of_isPlainChar {c : Char} (plain : isPlainChar c = true) :
    isGap c = (c == ' ') := by
  have noTab : c ≠ '\t' := by
    rintro rfl
    exact absurd plain (by decide)
  simp [isGap, noTab]

theorem isAllowed_of_isPlainChar {c : Char} (plain : isPlainChar c = true) :
    isAllowed c = true := by
  simp only [isPlainChar, isAllowed, Bool.or_eq_true, Bool.and_eq_true, beq_iff_eq,
    decide_eq_true_eq] at plain ⊢
  omega

/-! ### Folding -/

namespace Lexer

variable {s : Lexer} {tail : List Char} {indent : Int} {line column offset bound : Nat} {f : Fold}

/-- Spaces count on the line where the run of gaps and breaks starts. -/
def Fold.space (f : Fold) (width : Nat) : Fold :=
  if f.first.isSome then f else { f with gaps := f.gaps ++ margin width }

theorem Fold.space_zero : f.space 0 = f := by
  unfold space
  split_ifs
  · rfl
  · simp

theorem Fold.space_add (m n : Nat) : (f.space m).space n = f.space (m + n) := by
  unfold space
  split_ifs
  · rfl
  · simp

theorem fold?_space (rest : List Char) :
    fold? indent (s.moved (' ' :: rest) line column offset) f (bound + 1) =
      fold? indent (s.moved rest line (column + 1) (offset + 1)) (f.space 1) bound := by
  have noTab : ¬ (f.first.isSome = true ∧ ' ' = '\t' ∧ (column : Int) < indent) := by
    rintro ⟨-, same, -⟩
    exact absurd same (by decide)
  have isGap : isGap ' ' = true := rfl
  rw [fold?]
  simp only [rest_moved, column_moved, isGap, if_true]
  exact if_neg noTab

/-- A break, the first one or a further one. -/
def Fold.lineBreak (f : Fold) (c : Char) : Fold :=
  match f.first with
  | none => { first := some [c] }
  | some _ => { f with more := f.more ++ [c] }

theorem fold?_break {c : Char} (kept : isKept c = true) (rest : List Char) :
    fold? indent (s.moved (c :: rest) line column offset) f (bound + 1) =
      fold? indent (s.moved rest (line + 1) 0 0) (f.lineBreak c) bound := by
  have ends := isBreak_of_isKept kept
  rw [fold?]
  simp only [rest_moved, isGap_of_isBreak ends, ends, if_true, Bool.false_eq_true, if_false,
    takeBreak_of_isKept kept, newLine_moved]
  unfold Fold.lineBreak
  rfl

theorem fold?_margin (stops : ∀ c ∈ tail.head?, isGap c = false ∧ isBreak c = false)
    (width : Nat) (enough : width < bound) :
    fold? indent (s.moved (margin width ++ tail) line column offset) f bound =
      some (f.space width, s.moved tail line (column + width) (offset + width)) := by
  induction width generalizing column offset f bound with
  | zero =>
      obtain ⟨bound, rfl⟩ := Nat.exists_eq_add_of_lt enough
      rw [Fold.space_zero, Nat.zero_add]
      exact fold?_of_stop stops
  | succ width ih =>
      obtain ⟨bound, rfl⟩ : ∃ b, bound = b + 1 := ⟨bound - 1, by omega⟩
      show fold? indent (s.moved (' ' :: (margin width ++ tail)) line column offset) f _ = _
      rw [fold?_space, ih (by omega), Fold.space_add]
      simp only [Nat.add_assoc, Nat.add_comm 1]

/-- Breaks, and then the margin of a line. -/
theorem fold?_breaks (stops : ∀ c ∈ tail.head?, isGap c = false ∧ isBreak c = false)
    {c : Char} {breaks : List Char} (kept : ∀ d ∈ c :: breaks, isKept d = true) (width : Nat)
    (enough : (c :: breaks).length + width < bound) :
    fold? indent (s.moved (c :: (breaks ++ (margin width ++ tail))) line column offset) f bound =
      some (((c :: breaks).foldl Fold.lineBreak f).space width,
        s.moved tail (line + (c :: breaks).length) width width) := by
  induction breaks generalizing c line column offset f bound with
  | nil =>
      obtain ⟨bound, rfl⟩ : ∃ b, bound = b + 1 := ⟨bound - 1, by omega⟩
      rw [fold?_break (kept c List.mem_cons_self), List.nil_append,
        fold?_margin stops width (by simp at enough; omega), Nat.zero_add]
      rfl
  | cons d breaks ih =>
      obtain ⟨bound, rfl⟩ : ∃ b, bound = b + 1 := ⟨bound - 1, by omega⟩
      rw [List.length_cons] at enough
      rw [fold?_break (kept c List.mem_cons_self), List.cons_append,
        ih (fun e mem => kept e (List.mem_cons_of_mem _ mem)) (by omega),
        List.length_cons (a := c), Nat.add_assoc, Nat.add_comm 1]
      rfl

theorem Fold.foldl_lineBreak (c : Char) (breaks : List Char) :
    (c :: breaks).foldl Fold.lineBreak {} = { first := some [c], more := breaks } := by
  have further (more : List Char) : breaks.foldl Fold.lineBreak { first := some [c], more } =
      { first := some [c], more := more ++ breaks } := by
    induction breaks generalizing more with
    | nil => rw [List.append_nil]; rfl
    | cons d breaks ih =>
        rw [List.foldl_cons]
        show breaks.foldl Fold.lineBreak { first := some [c], more := more ++ [d] } = _
        rw [ih, List.append_assoc]
        rfl
  exact further []

end Lexer

/-! ### Plain scalars -/

/-- A text that can be written without quotes. -/
structure IsPlain (cs : List Char) : Prop where
  chars : ∀ c ∈ cs, isPlainChar c = true ∧ isBreak c = false
  lead : leadIndicator cs = false
  inner : innerIndicator cs = false
  starts : ∃ c ∈ cs.head?, c ≠ ' '
  ends : cs.getLast? ≠ some ' '

theorem innerIndicator_append {before : List Char} {a b : Char} {after : List Char}
    (inner : innerIndicator (before ++ a :: b :: after) = false) :
    (b = ':' → atGap after = false) ∧ (b = '#' → isGap a = false) := by
  induction before with
  | nil =>
      rw [List.nil_append, innerIndicator] at inner
      simp only [Bool.or_eq_false_iff, Bool.and_eq_false_iff, beq_eq_false_iff_ne] at inner
      obtain ⟨⟨colon, comment⟩, -⟩ := inner
      exact ⟨fun same => colon.resolve_left fun h => h same,
        fun same => (comment.resolve_left fun h => h same).1⟩
  | cons c before ih =>
      refine ih ?_
      cases before with
      | nil => exact (Bool.or_eq_false_iff.1 inner).2
      | cons d before => exact (Bool.or_eq_false_iff.1 inner).2

/-- In a plain text no colon stands before a gap. -/
theorem IsPlain.colon {cs before after : List Char} (plain : IsPlain cs)
    (split : cs = before ++ ':' :: after) : atGap after = false := by
  subst split
  cases before using List.reverseRecOn with
  | nil =>
      have lead := plain.lead
      simp only [List.nil_append, leadIndicator, Bool.or_eq_false_iff] at lead
      simpa using lead.2
  | append_singleton before a =>
      have inner := plain.inner
      rw [List.append_assoc] at inner
      exact (innerIndicator_append inner).1 rfl

/-- In a plain text no number sign stands at the start or after a gap. -/
theorem IsPlain.comment {cs before after : List Char} (plain : IsPlain cs)
    (split : cs = before ++ '#' :: after) : ∃ a ∈ before.getLast?, isGap a = false := by
  subst split
  cases before using List.reverseRecOn with
  | nil => exact absurd plain.lead (by simp [leadIndicator, isLeadMark])
  | append_singleton before a =>
      have inner := plain.inner
      rw [List.append_assoc] at inner
      exact ⟨a, by simp, (innerIndicator_append inner).2 rfl⟩

/-- Words with spaces between them. -/
inductive AreWords : List Char → Prop where
  | last {word : List Char} (nonempty : word ≠ []) (noSpace : ' ' ∉ word) : AreWords word
  | more {word cs : List Char} (nonempty : word ≠ []) (noSpace : ' ' ∉ word) (width : Nat)
    (words : AreWords cs) : AreWords (word ++ (margin (width + 1) ++ cs))

theorem AreWords.cons {c : Char} {cs : List Char} (words : AreWords cs) (noSpace : c ≠ ' ') :
    AreWords (c :: cs) := by
  cases words with
  | last nonempty free =>
      exact .last (List.cons_ne_nil _ _) (by simp [free, Ne.symm noSpace])
  | more nonempty free width words =>
      exact .more (List.cons_ne_nil _ _) (by simp [free, Ne.symm noSpace]) width words

theorem exists_areWords {cs : List Char} (nonempty : cs ≠ []) (ends : cs.getLast? ≠ some ' ') :
    ∃ width words, cs = margin width ++ words ∧ AreWords words := by
  induction cs with
  | nil => exact absurd rfl nonempty
  | cons c cs ih =>
      cases cs with
      | nil =>
          have noSpace : c ≠ ' ' := by simpa using ends
          exact ⟨0, [c], rfl, .last (List.cons_ne_nil _ _) (by simp [Ne.symm noSpace])⟩
      | cons d ds =>
          obtain ⟨width, words, split, areWords⟩ := ih (List.cons_ne_nil _ _) (by simpa using ends)
          by_cases space : c = ' '
          · exact ⟨width + 1, words, by rw [space, split]; rfl, areWords⟩
          · refine ⟨0, c :: d :: ds, rfl, ?_⟩
            cases width with
            | zero =>
                rw [split]
                exact areWords.cons space
            | succ width =>
                rw [split]
                exact .more (List.cons_ne_nil c []) (by simp [Ne.symm space]) width areWords

theorem IsPlain.areWords {cs : List Char} (plain : IsPlain cs) : AreWords cs := by
  obtain ⟨c, mem, noSpace⟩ := plain.starts
  have nonempty : cs ≠ [] := by
    rintro rfl
    simp at mem
  obtain ⟨width, words, rfl, areWords⟩ := exists_areWords nonempty plain.ends
  cases width with
  | zero => exact areWords
  | succ width => exact absurd (Option.some.inj mem).symm noSpace

theorem AreWords.head {cs : List Char} (words : AreWords cs) : ∃ c ∈ cs.head?, c ≠ ' ' := by
  have first {word after : List Char} (nonempty : word ≠ []) (noSpace : ' ' ∉ word) :
      ∃ c ∈ (word ++ after).head?, c ≠ ' ' := by
    obtain ⟨c, word, rfl⟩ := List.exists_cons_of_ne_nil nonempty
    refine ⟨c, rfl, ?_⟩
    rintro rfl
    exact noSpace List.mem_cons_self
  cases words with
  | last nonempty noSpace => simpa using @first _ [] nonempty noSpace
  | more nonempty noSpace width words => exact first nonempty noSpace

namespace Lexer

variable {s : Lexer} {text : List Char} {column line start offset width : Nat}

/-- The text of a plain scalar so far: after the first word there are spaces before the next. -/
structure IsRead (text read : List Char) (gap : Nat) (rest : List Char) : Prop where
  split : text = read ++ (margin gap ++ rest)
  separated : read = [] ↔ gap = 0

theorem IsRead.noComment {read rest : List Char} {gap : Nat} (isRead : IsRead text read gap rest)
    (plain : IsPlain text) : rest.head? ≠ some '#' := by
  intro comment
  obtain ⟨rest, rfl⟩ : ∃ cs, rest = '#' :: cs := List.head?_eq_some_iff.1 comment
  obtain ⟨a, mem, noGap⟩ := plain.comment (isRead.split.trans (List.append_assoc _ _ _).symm)
  cases gap with
  | zero =>
      rw [isRead.separated.2 rfl] at mem
      simp at mem
  | succ gap =>
      have last : (read ++ margin (gap + 1)).getLast? = some ' ' := by
        rw [margin, List.replicate_succ', ← List.append_assoc, List.getLast?_concat]
      obtain rfl := Option.some.inj (last.symm.trans mem)
      exact absurd noGap (by decide)

theorem IsRead.noColon {read word after : List Char} {gap : Nat}
    (isRead : IsRead text read gap (word ++ after)) (plain : IsPlain text)
    (atGap : atGap after = true) : word.getLast? ≠ some ':' := by
  intro colon
  obtain ⟨word, rfl⟩ := List.getLast?_eq_some_iff.1 colon
  have split : text = (read ++ (margin gap ++ word)) ++ ':' :: after := by
    rw [isRead.split]
    simp
  rw [plain.colon split] at atGap
  exact Bool.noConfusion atGap

theorem IsRead.plainRun? {read word after rest : List Char} {gap : Nat}
    (isRead : IsRead text read gap (word ++ after)) (plain : IsPlain text)
    (atGap : Yaml.atGap after = true) (noSpace : ' ' ∉ word)
    (stops : Lexer.plainRun? false rest = some []) :
    Lexer.plainRun? false (word ++ rest) = some word := by
  refine plainRun?_append (fun c mem => ?_) (isRead.noColon plain atGap) stops
  have among : c ∈ text := by
    rw [isRead.split]
    simp [mem]
  obtain ⟨isPlainChar, noBreak⟩ := plain.chars c among
  refine ⟨?_, noBreak⟩
  rw [isGap_eq_of_isPlainChar isPlainChar, beq_eq_false_iff_ne]
  rintro rfl
  exact noSpace mem

/-- The spaces before the next word, as they are added to what was read. -/
theorem IsRead.join {read rest word : List Char} {gap : Nat} (isRead : IsRead text read gap rest) :
    read ++ (if read.isEmpty then [] else ({ gaps := margin gap } : Fold).chars) ++ word =
      read ++ (margin gap ++ word) := by
  cases read with
  | nil =>
      rw [isRead.separated.1 rfl]
      rfl
  | cons c read =>
      rw [List.append_assoc]
      rfl

/-- One word of a plain scalar. -/
theorem plain?_word {read word after rest : List Char} {gap bound : Nat}
    (blocks : s.outerPending = []) (plain : IsPlain text)
    (isRead : IsRead text read gap (word ++ after)) (atGap : Yaml.atGap after = true)
    (nonempty : word ≠ []) (noSpace : ' ' ∉ word) (inside : 0 < start)
    (stops : Lexer.plainRun? false rest = some []) {f : Fold} {next : Lexer}
    (folds : fold? (column + 1) (s.moved rest line (start + word.length)
      (offset + byteLength word)) {} bound = some (f, next)) (goesOn : next.inFlow = false)
    (broken : f.gaps.isEmpty = false ∨ f.first.isNone = false) :
    plain? (column + 1) (s.moved (word ++ rest) line start offset) read { gaps := margin gap }
        (bound + 1) =
      if (next.column : Int) < column + 1 then
        some { next.emit (.scalar (String.ofList (read ++ (margin gap ++ word))) true) with
          keyAllowed := next.keyAllowed || f.first.isSome }
      else plain? (column + 1) next (read ++ (margin gap ++ word)) f bound := by
  obtain ⟨c, cs, split⟩ := List.exists_cons_of_ne_nil nonempty
  have noStop : ¬ (((s.moved (word ++ rest) line start offset).column = 0 ∧
      atDocumentMark (word ++ rest) = true) ∨ (word ++ rest).head? = some '#') := by
    rintro (⟨first, -⟩ | comment)
    · exact Nat.ne_of_gt inside first
    · refine isRead.noComment plain ?_
      rw [split] at comment ⊢
      exact comment
  have notInFlow : (s.moved (word ++ rest) line start offset).inFlow = false := by
    rw [inFlow_moved, inFlow, blocks]
    rfl
  have runs := isRead.plainRun? plain atGap noSpace stops
  have advanced : (s.moved (word ++ rest) line start offset).advance word.length =
      s.moved rest line (start + word.length) (offset + byteLength word) := by
    rw [advance_moved, List.drop_left, List.take_left]
  have written : word.isEmpty = false := by
    rw [split]
    rfl
  have notEnded : ¬ (f.gaps.isEmpty = true ∧ f.first.isNone = true) := by
    rintro ⟨noGaps, noBreak⟩
    rcases broken with some | some
    · rw [some] at noGaps
      exact Bool.noConfusion noGaps
    · rw [some] at noBreak
      exact Bool.noConfusion noBreak
  rw [plain?, notInFlow, rest_moved, runs]
  simp only [if_neg noStop, Option.bind_eq_bind, Option.bind_some, written, advanced, folds,
    isRead.join, if_neg notEnded, goesOn, Bool.not_false, true_and, Bool.false_eq_true, if_false]
  rfl

/-- The words that are left of a plain scalar, and the margin of the next line. -/
theorem plain?_words {cs : List Char} {bound : Nat} (words : AreWords cs)
    (blocks : s.outerPending = []) (plain : IsPlain text) {read : List Char} {gap : Nat}
    (isRead : IsRead text read gap cs) (content : StartsContent tail) (shallow : width ≤ column)
    (deeper : column < start)
    (enough : (cs ++ '\n' :: (margin width ++ tail)).length < bound) :
    plain? (column + 1) (s.moved (cs ++ '\n' :: (margin width ++ tail)) line start offset) read
        { gaps := margin gap } bound =
      some { (s.moved tail (line + 1) width width).emit (.scalar (String.ofList text) true) with
        keyAllowed := true } := by
  have goesOn {rest : List Char} {line start offset : Nat} :
      (s.moved rest line start offset).inFlow = false := by
    rw [inFlow_moved, inFlow, blocks]
    rfl
  -- after each word there are spaces, which join it to the next, or the break of the line
  induction words generalizing read gap start offset bound with
  | @last word nonempty noSpace =>
      obtain ⟨bound, rfl⟩ : ∃ b, bound = b + 1 := ⟨bound - 1, by omega⟩
      have isRead' : IsRead text read gap (word ++ []) := by rwa [List.append_nil]
      have folds : fold? (column + 1) (s.moved ('\n' :: (margin width ++ tail)) line
          (start + word.length) (offset + byteLength word)) {} bound =
          some ({ first := some ['\n'] }, s.moved tail (line + 1) width width) := by
        have kept : ∀ c ∈ ['\n'], isKept c = true := List.forall_mem_singleton.2 rfl
        refine @fold?_breaks s tail _ line _ _ bound {} content.stops '\n' [] kept width ?_
        have := List.length_pos_iff.2 nonempty
        simp at enough ⊢
        omega
      rw [plain?_word blocks plain isRead' rfl nonempty noSpace (by omega)
        (by simp [Lexer.plainRun?, isGap, isBreak]) folds goesOn (.inr rfl),
        if_pos (by rw [column_moved]; omega), isRead.split]
      simp
  | @more word cs nonempty noSpace further words ih =>
      obtain ⟨bound, rfl⟩ : ∃ b, bound = b + 1 := ⟨bound - 1, by omega⟩
      have written := List.length_pos_iff.2 nonempty
      have stops : ∀ c ∈ (cs ++ '\n' :: (margin width ++ tail)).head?,
          isGap c = false ∧ isBreak c = false := by
        obtain ⟨c, first, noSpace⟩ := words.head
        obtain ⟨cs, rfl⟩ := List.head?_eq_some_iff.1 first
        rintro d mem
        obtain rfl := Option.some.inj mem
        have among : c ∈ text := by
          rw [isRead.split]
          simp
        obtain ⟨isPlainChar, noBreak⟩ := plain.chars c among
        exact ⟨by simp [isGap_eq_of_isPlainChar isPlainChar, noSpace], noBreak⟩
      have folds : fold? (column + 1) (s.moved (margin (further + 1) ++
          (cs ++ '\n' :: (margin width ++ tail))) line (start + word.length)
          (offset + byteLength word)) {} bound =
          some ({ gaps := margin (further + 1) },
            s.moved (cs ++ '\n' :: (margin width ++ tail)) line
              (start + word.length + (further + 1))
              (offset + byteLength word + (further + 1))) := by
        refine fold?_margin stops (further + 1) ?_
        simp at enough
        omega
      rw [List.append_assoc, List.append_assoc, plain?_word blocks plain isRead rfl nonempty noSpace
        (by omega) (by simp [Lexer.plainRun?, isGap, List.replicate_succ]) folds goesOn (.inl rfl),
        if_neg (by rw [column_moved]; omega)]
      refine ih ⟨?_, ?_⟩ (by omega) (by simp at enough ⊢; omega)
      · rw [isRead.split]
        simp
      · simp [nonempty]

end Lexer

theorem leadIndicator_append {cs after : List Char} (nonempty : cs ≠ []) :
    leadIndicator (cs ++ '\n' :: after) = leadIndicator cs := by
  obtain ⟨c, cs, rfl⟩ := List.exists_cons_of_ne_nil nonempty
  cases cs with
  | nil => rfl
  | cons d cs => rfl

theorem IsPlain.ne_nil {cs : List Char} (plain : IsPlain cs) : cs ≠ [] := by
  rintro rfl
  obtain ⟨c, mem, -⟩ := plain.starts
  simp at mem

theorem noByteOrderMark_of_isPlainChar {c : Char} (plain : isPlainChar c = true) :
    Lexer.isByteOrderMark c = false := by
  rw [Lexer.isByteOrderMark, beq_eq_false_iff_ne]
  intro mark
  simp [isPlainChar, mark] at plain

theorem IsPlain.startsContent {cs : List Char} (plain : IsPlain cs) : StartsContent cs := by
  rintro c first
  obtain ⟨cs, rfl⟩ := List.head?_eq_some_iff.1 first
  obtain ⟨d, first, noSpace⟩ := plain.starts
  obtain rfl := Option.some.inj first
  obtain ⟨isPlainChar, noBreak⟩ := plain.chars c List.mem_cons_self
  refine ⟨by simp [isGap_eq_of_isPlainChar isPlainChar, noSpace], ?_, noBreak,
    noByteOrderMark_of_isPlainChar isPlainChar⟩
  rintro rfl
  exact absurd plain.lead (by simp [leadIndicator, isLeadMark])

/-- A text without quotes. -/
theorem Lexes.plain {cs : List Char} (plain : IsPlain cs) (column : Nat) :
    Lexes column (' ' :: (cs ++ ['\n'])) [.scalar (String.ofList cs) true] := by
  obtain ⟨c, body, rfl⟩ := List.exists_cons_of_ne_nil plain.ne_nil
  refine Lexes.scalar (fun d mem => isAllowed_of_isPlainChar (plain.chars d mem).1)
    plain.startsContent ?_
  intro emitted outer keyAllowed tail line start offset width bound ts deeper shallow content enough
    next
  obtain ⟨pending, loose, saved⟩ := Lexer.saveKey?_value emitted deeper outer keyAllowed
    (c :: (body ++ '\n' :: (margin width ++ tail))) line offset
  have lead : leadIndicator (c :: (body ++ '\n' :: (margin width ++ tail))) = false :=
    (leadIndicator_append (List.cons_ne_nil c body)).trans plain.lead
  have isRead : Lexer.IsRead (c :: body) [] 0 (c :: body) := ⟨rfl, by simp⟩
  have scanned : Lexer.plain? (column + 1) ((Lexer.inBlock emitted column outer false pending).moved
      (c :: (body ++ '\n' :: (margin width ++ tail))) line start offset) [] {} bound = some _ :=
    Lexer.plain?_words plain.areWords rfl plain isRead content shallow deeper enough
  rw [Lexer.token?_plain rfl rfl lead (fun first => absurd first (by simp; omega)), saved,
    Option.bind_some]
  refine ⟨_, scanned, by simp [Lexer.emit]; omega, ?_⟩
  refine Lexer.Yields.of_content ⟨rfl, rfl, fun p mem => ?_⟩ rfl content rfl (next _)
  obtain ⟨notRequired, here, -⟩ := loose p mem
  exact ⟨notRequired, by rw [here]; exact Nat.lt_succ_self line⟩

end MixinIndex.Yaml
