import Mathlib.Algebra.Order.Ring.Nat
import MixinIndex.Proofs.Yaml.Plain

/-!
# Quoted scalars

A text between quotes is scanned to itself, whatever line the scan is in when it comes to the end of
it.  Between single quotes a quote is doubled, and the line after a break is indented; between
double quotes everything that could be read in another way is an escape.

## Main definitions

* `Yaml.Lexer.Closes`: what is written after the opening quote reads as a text
* `Yaml.AreRuns`: a text cut where the reader folds gaps and breaks

## Main statements

* `Yaml.escape_cases`: a character stands for itself, or its escape is read back
* `Yaml.Lexes.singleQuoted`, `Yaml.Lexes.doubleQuoted`: the scalars as values

## Design notes

The reader takes gaps and breaks in one run, which it folds when it has seen all of it.  So a text
is cut into such runs.  A run folds to itself if it is of spaces only, or of breaks that start with
none that folds to a space; this is what the choice of the quotes sees to.  Escaped breaks belong to
no run, so between double quotes only spaces do.
-/

namespace MixinIndex.Yaml

open Text

/-! ### Quoted parts -/

namespace Lexer

/-- A text in quotes, after the mark that opens it and with the one that closes it. -/
structure Closes (single : Bool) (written text : List Char) : Prop where
  scans : ∀ (s : Lexer) (after read : List Char) (line start offset bound : Nat), 0 < start →
    after.head? ≠ some '\'' → (written ++ after).length < bound →
    ∃ line' column' offset', line ≤ line' ∧
      quoted? single (s.moved (written ++ after) line start offset) read bound =
        some ((s.moved after line' column' offset').emit
          (.scalar (String.ofList (read.reverse ++ text)) false))

variable {single : Bool} {written text : List Char}

/-- Nothing at the head of a text is a gap or a break. -/
def StartsSolid (cs : List Char) : Prop := ∃ c ∈ cs.head?, isGap c = false ∧ isBreak c = false

theorem StartsSolid.stops {cs after : List Char} (solid : StartsSolid cs) :
    ∀ c ∈ (cs ++ after).head?, isGap c = false ∧ isBreak c = false := by
  obtain ⟨c, first, facts⟩ := solid
  obtain ⟨cs, rfl⟩ := List.head?_eq_some_iff.1 first
  rintro d mem
  obtain rfl := Option.some.inj mem
  exact facts

theorem notAtMark {start : Nat} (inside : 0 < start) (cs : List Char) :
    ¬ (start = 0 ∧ atDocumentMark cs = true) := fun h => Nat.ne_of_gt inside h.1

/-- The mark at the end. -/
theorem closes_mark : Closes single [if single then '\'' else '"'] [] := by
  constructor
  intro s after read line start offset bound inside notQuoted enough
  obtain ⟨bound, rfl⟩ : ∃ b, bound = b + 1 := ⟨bound - 1, by omega⟩
  refine ⟨line, start + 1, offset + 1, Nat.le_refl _, ?_⟩
  have apostrophe : '\''.utf8Size = 1 := rfl
  have quote : '"'.utf8Size = 1 := rfl
  rw [quoted?, List.append_nil]
  simp only [rest_moved, column_moved, if_neg (notAtMark inside _)]
  cases single with
  | true => simp [notQuoted, advance_moved, apostrophe]
  | false => simp [advance_moved, quote]

/-- A part that is read in one step. -/
theorem Closes.step {part value : List Char} (closes : Closes single written text)
    (nonempty : part ≠ [])
    (steps : ∀ {s : Lexer} {after read : List Char} {line start offset bound : Nat}, 0 < start →
      (part ++ (written ++ after)).length ≤ bound →
      ∃ line' start' offset', line ≤ line' ∧ 0 < start' ∧
        quoted? single (s.moved (part ++ (written ++ after)) line start offset) read (bound + 1) =
          quoted? single (s.moved (written ++ after) line' start' offset') (value.reverse ++ read)
            bound) :
    Closes single (part ++ written) (value ++ text) := by
  constructor
  intro s after read line start offset bound inside notQuoted enough
  obtain ⟨bound, rfl⟩ : ∃ b, bound = b + 1 := ⟨bound - 1, by omega⟩
  rw [List.append_assoc] at enough ⊢
  obtain ⟨line', start', offset', later, inside', stepped⟩ :=
    @steps s after read line start offset bound inside (Nat.le_of_lt_succ enough)
  have shorter : (written ++ after).length < bound := by
    have := List.length_pos_iff.2 nonempty
    rw [List.length_append] at enough
    omega
  obtain ⟨line'', column', offset'', later', rest⟩ := closes.scans s after (value.reverse ++ read)
    line' start' offset' bound inside' notQuoted shorter
  refine ⟨line'', column', offset'', Nat.le_trans later later', ?_⟩
  rw [stepped, rest, List.reverse_append, List.reverse_reverse, List.append_assoc]

/-- A character that stands for itself. -/
theorem Closes.char {c : Char} (closes : Closes single written text) (noGap : isGap c = false)
    (noBreak : isBreak c = false) (noMark : c ≠ if single then '\'' else '"')
    (noEscape : single = true ∨ c ≠ '\\') : Closes single (c :: written) (c :: text) := by
  refine @Closes.step single written text [c] [c] closes (List.cons_ne_nil c []) ?_
  intro s after read line start offset bound inside _
  refine ⟨line, start + 1, offset + byteLength [c], Nat.le_refl _, Nat.succ_pos _, ?_⟩
  have notDoubled : ¬ (single = true ∧ c = '\'' ∧ (written ++ after).head? = some '\'') := by
    rintro ⟨rfl, rfl, -⟩
    exact noMark rfl
  have notEscaped : ¬ ((!single) = true ∧ c = '\\') := by
    rintro ⟨double, rfl⟩
    rcases noEscape with rfl | other
    · exact Bool.noConfusion double
    · exact other rfl
  rw [List.singleton_append, quoted?]
  simp only [rest_moved, column_moved, if_neg (notAtMark inside _), if_neg notDoubled,
    if_neg noMark, if_neg notEscaped, noGap, noBreak, Bool.false_eq_true, or_self, if_false]
  rfl

/-- A single quote, which is written twice between single quotes. -/
theorem Closes.apostrophe (closes : Closes true written text) :
    Closes true ('\'' :: '\'' :: written) ('\'' :: text) := by
  refine @Closes.step true written text ['\'', '\''] ['\''] closes (List.cons_ne_nil _ _) ?_
  intro s after read line start offset bound inside _
  refine ⟨line, start + 2, offset + byteLength ['\'', '\''], Nat.le_refl _, Nat.succ_pos _, ?_⟩
  rw [List.cons_append, quoted?]
  simp only [rest_moved, column_moved, if_neg (notAtMark inside _), List.cons_append,
    List.head?_cons, and_self, if_true]
  rfl

/-- A run of gaps and breaks that folds to some characters. -/
theorem Closes.fold {run folded : List Char} (closes : Closes single written text)
    (starts : ∃ c ∈ run.head?, isGap c = true ∨ isBreak c = true)
    (folds : ∀ {s : Lexer} {after : List Char} {line start offset bound : Nat},
      (run ++ (written ++ after)).length ≤ bound → 0 < start →
      ∃ f line' start' offset', line ≤ line' ∧ 0 < start' ∧ f.chars = folded ∧
        fold? 0 (s.moved (run ++ (written ++ after)) line start offset) {} bound =
          some (f, s.moved (written ++ after) line' start' offset')) :
    Closes single (run ++ written) (folded ++ text) := by
  obtain ⟨c, first, ends⟩ := starts
  obtain ⟨run, rfl⟩ := List.head?_eq_some_iff.1 first
  refine closes.step (List.cons_ne_nil c run) ?_
  intro s after read line start offset bound inside enough
  obtain ⟨f, line', start', offset', later, inside', rfl, ran⟩ :=
    @folds s after line start offset bound enough inside
  refine ⟨line', start', offset', later, inside', ?_⟩
  have notMark (mark : Char) (isMark : mark = '\'' ∨ mark = '"' ∨ mark = '\\') : c ≠ mark := by
    rintro rfl
    rcases isMark with rfl | rfl | rfl
    all_goals exact absurd ends (by decide)
  have notClosing : c ≠ if single then '\'' else '"' := by
    cases single with
    | true => exact notMark _ (.inl rfl)
    | false => exact notMark _ (.inr (.inl rfl))
  rw [List.cons_append] at ran ⊢
  rw [quoted?]
  simp only [rest_moved, column_moved, if_neg (notAtMark inside _), notMark '\'' (.inl rfl),
    notMark '\\' (.inr (.inr rfl)), if_neg notClosing, false_and, and_false, if_false,
    if_pos ends, ran, Option.bind_eq_bind, Option.bind_some]

theorem StartsSolid.length_pos {cs : List Char} (solid : StartsSolid cs) : 0 < cs.length := by
  obtain ⟨c, first, -⟩ := solid
  obtain ⟨cs, rfl⟩ := List.head?_eq_some_iff.1 first
  exact Nat.succ_pos _

/-- A run of spaces. -/
theorem Closes.spaces (closes : Closes single written text) (solid : StartsSolid written)
    (width : Nat) :
    Closes single (margin (width + 1) ++ written) (margin (width + 1) ++ text) := by
  refine closes.fold ⟨' ', rfl, .inl rfl⟩ ?_
  intro s after line start offset bound enough inside
  refine ⟨{ gaps := margin (width + 1) }, line, start + (width + 1), offset + (width + 1),
    Nat.le_refl _, by omega, rfl, ?_⟩
  refine fold?_margin solid.stops (width + 1) ?_
  have := solid.length_pos
  simp at enough
  omega

/-- A run of breaks other than line feeds, and the margin of the next line. -/
theorem Closes.breaks {c : Char} {breaks : List Char} (closes : Closes single written text)
    (solid : StartsSolid written) (kept : ∀ d ∈ c :: breaks, isKept d = true) (notFeed : c ≠ '\n')
    {width : Nat} (deep : 0 < width) :
    Closes single (c :: (breaks ++ margin width) ++ written) (c :: breaks ++ text) := by
  refine closes.fold ⟨c, rfl, .inr (isBreak_of_isKept (kept c List.mem_cons_self))⟩ ?_
  intro s after line start offset bound enough inside
  refine ⟨{ first := some [c], more := breaks }, line + (c :: breaks).length, width, width,
    Nat.le_add_right _ _, deep, ?_, ?_⟩
  · unfold Fold.chars
    simp [notFeed]
  · have solidLength := solid.length_pos
    have short : (c :: breaks).length + width < bound := by
      simp at enough ⊢
      omega
    have ran := @fold?_breaks s (written ++ after) 0 line start offset bound {} solid.stops c breaks
      kept width short
    rw [Fold.foldl_lineBreak] at ran
    rw [List.cons_append, List.append_assoc]
    exact ran

theorem token?_quoted {s : Lexer} {single : Bool} {cs : List Char} {bound : Nat}
    (inside : 0 < s.column) :
    s.token? bound (if single then '\'' else '"') cs =
      s.saveKey?.bind fun s =>
        quoted? single { s.advance 1 with keyAllowed := false } [] bound := by
  cases single with
  | true => simp [token?, Nat.ne_of_gt inside]
  | false => simp [token?, Nat.ne_of_gt inside]

end Lexer

/-- A text in quotes. -/
theorem Lexes.quoted {single : Bool} {body text : List Char}
    (closes : Lexer.Closes single body text) (allowed : ∀ c ∈ body, isAllowed c = true)
    (column : Nat) :
    Lexes column (' ' :: (if single then '\'' else '"') :: (body ++ ['\n']))
      [.scalar (String.ofList text) false] := by
  refine Lexes.scalar ?_ (startsContent_cons (by cases single <;> decide)) ?_
  · refine List.forall_mem_cons.2 ⟨?_, allowed⟩
    cases single <;> decide
  intro emitted outer keyAllowed tail line start offset width bound ts deeper shallow content enough
    next
  generalize isRest : body ++ '\n' :: (margin width ++ tail) = rest at enough ⊢
  obtain ⟨pending, loose, saved⟩ := Lexer.saveKey?_value emitted deeper outer keyAllowed
    ((if single then '\'' else '"') :: rest) line offset
  obtain ⟨line', column', offset', later, scanned⟩ :=
    closes.scans (Lexer.inBlock emitted column outer false pending)
      ('\n' :: (margin width ++ tail)) [] line (start + 1)
      (offset + byteLength [if single then '\'' else '"']) bound (Nat.succ_pos _)
      (by simp) (by rw [isRest]; simp at enough ⊢; omega)
  rw [isRest] at scanned
  rw [Lexer.token?_quoted (by simp; omega), saved, Option.bind_some]
  refine ⟨_, scanned, ?_, ?_⟩
  · show ('\n' :: (margin width ++ tail)).length < (_ :: rest).length
    rw [← isRest]
    simp only [List.length_append, List.length_cons]
    omega
  · refine Lexer.Yields.of_lineBreak ⟨rfl, rfl, fun p mem => ?_⟩ rfl content (next _)
    obtain ⟨notRequired, here, -⟩ := loose p mem
    exact ⟨notRequired, by rw [here]; exact Nat.lt_succ_of_le later⟩

/-! ### Runs -/

/-- A text cut into runs of spaces, runs of characters that end lines, and other characters.  No run
touches another. -/
inductive AreRuns (ends : Char → Bool) : List Char → Prop where
  | nil : AreRuns ends []
  | char {c : Char} {cs : List Char} (noSpace : c ≠ ' ') (noEnd : ends c = false)
    (runs : AreRuns ends cs) : AreRuns ends (c :: cs)
  | spaces {cs : List Char} (width : Nat) (apart : ∀ d ∈ cs.head?, d ≠ ' ' ∧ ends d = false)
    (runs : AreRuns ends cs) : AreRuns ends (margin (width + 1) ++ cs)
  | breaks {c : Char} {breaks cs : List Char} (areEnds : ∀ d ∈ c :: breaks, ends d = true)
    (apart : ∀ d ∈ cs.head?, d ≠ ' ' ∧ ends d = false) (runs : AreRuns ends cs) :
    AreRuns ends (c :: (breaks ++ cs))

theorem AreRuns.cons_space {ends : Char → Bool} {cs : List Char} (runs : AreRuns ends cs)
    (noEnd : ∀ d ∈ cs.head?, ends d = false) : AreRuns ends (' ' :: cs) := by
  cases runs with
  | nil => exact .spaces 0 (by simp) .nil
  | char noSpace notEnd runs =>
      exact .spaces 0 (by simp [noSpace, notEnd]) (.char noSpace notEnd runs)
  | spaces width apart runs => exact .spaces (width + 1) apart runs
  | breaks areEnds apart runs =>
      have isEnd := areEnds _ List.mem_cons_self
      rw [noEnd _ rfl] at isEnd
      exact Bool.noConfusion isEnd

theorem AreRuns.cons_end {ends : Char → Bool} {c : Char} {cs : List Char} (runs : AreRuns ends cs)
    (isEnd : ends c = true) (noSpace : ∀ d ∈ cs.head?, d ≠ ' ') : AreRuns ends (c :: cs) := by
  cases runs with
  | nil => exact @AreRuns.breaks ends c [] [] (by simpa using isEnd) (by simp) .nil
  | @char d cs other notEnd runs =>
      exact @AreRuns.breaks ends c [] (d :: cs) (by simpa using isEnd) (by simp [other, notEnd])
        (.char other notEnd runs)
  | spaces width apart runs => exact absurd rfl (noSpace ' ' rfl)
  | @breaks d breaks cs areEnds apart runs =>
      have all : ∀ e ∈ c :: d :: breaks, ends e = true := List.forall_mem_cons.2 ⟨isEnd, areEnds⟩
      exact .breaks all apart runs

/-- No space stands beside a character that ends a line. -/
theorem areRuns {ends : Char → Bool} {cs : List Char}
    (noEnd : hasPair (· == ' ') ends cs = false) (noSpace : hasPair ends (· == ' ') cs = false) :
    AreRuns ends cs := by
  induction cs with
  | nil => exact .nil
  | cons c cs ih =>
      have runs : AreRuns ends cs := by
        cases cs with
        | nil => exact .nil
        | cons d cs =>
            rw [hasPair, Bool.or_eq_false_iff] at noEnd noSpace
            exact ih noEnd.2 noSpace.2
      by_cases space : c = ' '
      · subst space
        refine runs.cons_space ?_
        rintro d first
        obtain ⟨cs, rfl⟩ := List.head?_eq_some_iff.1 first
        rw [hasPair, Bool.or_eq_false_iff] at noEnd
        simpa using noEnd.1
      · cases isEnd : ends c with
        | false => exact .char space isEnd runs
        | true =>
            refine runs.cons_end isEnd ?_
            rintro d first
            obtain ⟨cs, rfl⟩ := List.head?_eq_some_iff.1 first
            rw [hasPair, Bool.or_eq_false_iff] at noSpace
            simpa [isEnd] using noSpace.1

/-! ### Single quotes -/

theorem singleQuoted_fresh {indent : Nat} {cs : List Char}
    (noBreak : ∀ d ∈ cs.head?, isBreak d = false) :
    singleQuoted indent true cs = margin indent ++ singleQuoted indent false cs := by
  cases cs with
  | nil => rfl
  | cons c cs =>
      have : isBreak c = false := noBreak c rfl
      simp [singleQuoted, this]

theorem singleQuoted_margin (indent width : Nat) (cs : List Char) :
    singleQuoted indent false (margin width ++ cs) =
      margin width ++ singleQuoted indent false cs := by
  induction width with
  | zero => rfl
  | succ width ih =>
      have step (rest : List Char) :
          singleQuoted indent false (' ' :: rest) = ' ' :: singleQuoted indent false rest := rfl
      show singleQuoted indent false (' ' :: (margin width ++ cs)) = _
      rw [step, ih]
      rfl

theorem singleQuoted_breaks {indent : Nat} {c : Char} {breaks cs : List Char}
    (ends : ∀ d ∈ c :: breaks, isBreak d = true) (noBreak : ∀ d ∈ cs.head?, isBreak d = false)
    (fresh : Bool) :
    singleQuoted indent fresh (c :: (breaks ++ cs)) =
      c :: (breaks ++ margin indent) ++ singleQuoted indent false cs := by
  have isEnd : isBreak c = true := ends c List.mem_cons_self
  rw [singleQuoted, if_pos isEnd]
  induction breaks generalizing c fresh with
  | nil =>
      rw [List.nil_append, singleQuoted_fresh noBreak]
      rfl
  | cons d breaks ih =>
      have further : ∀ e ∈ d :: breaks, isBreak e = true :=
        fun e mem => ends e (List.mem_cons_of_mem _ mem)
      have isEnd : isBreak d = true := further d List.mem_cons_self
      rw [List.cons_append, singleQuoted, if_pos isEnd, ih further true isEnd]
      rfl

theorem startsSolid_singleQuoted {indent : Nat} {cs : List Char}
    (plain : ∀ c ∈ cs, isPlainChar c = true)
    (apart : ∀ c ∈ cs.head?, c ≠ ' ' ∧ isBreak c = false) :
    Lexer.StartsSolid (singleQuoted indent false cs) := by
  cases cs with
  | nil => exact ⟨'\'', rfl, by decide⟩
  | cons c cs =>
      obtain ⟨noSpace, noBreak⟩ := apart c rfl
      have noGap : isGap c = false := by
        simp [isGap_eq_of_isPlainChar (plain c List.mem_cons_self), noSpace]
      rw [singleQuoted, noBreak]
      by_cases quote : c = '\''
      · exact ⟨'\'', by simp [quote], by decide⟩
      · exact ⟨c, by simp [quote], noGap, noBreak⟩

theorem closes_singleQuoted {indent : Nat} (deep : 0 < indent) {cs : List Char}
    (chars : ∀ c ∈ cs, isPlainChar c = true ∧ c ≠ '\n') (runs : AreRuns isBreak cs) :
    Lexer.Closes true (singleQuoted indent false cs) cs := by
  induction runs with
  | nil => exact Lexer.closes_mark
  | @char c cs noSpace noEnd runs ih =>
      obtain ⟨first, further⟩ := List.forall_mem_cons.1 chars
      have noGap : isGap c = false := by simp [isGap_eq_of_isPlainChar first.1, noSpace]
      rw [singleQuoted, noEnd]
      by_cases quote : c = '\''
      · subst quote
        exact (ih further).apostrophe
      · rw [if_neg quote]
        exact (ih further).char noGap noEnd quote (.inl rfl)
  | @spaces cs width apart runs ih =>
      have further : ∀ c ∈ cs, isPlainChar c = true ∧ c ≠ '\n' :=
        fun c mem => chars c (List.mem_append_right _ mem)
      rw [singleQuoted_margin]
      exact (ih further).spaces (startsSolid_singleQuoted (fun c mem => (further c mem).1) apart)
        width
  | @breaks c breaks cs areEnds apart runs ih =>
      have further : ∀ d ∈ cs, isPlainChar d = true ∧ d ≠ '\n' :=
        fun d mem => chars d (List.mem_cons_of_mem _ (List.mem_append_right _ mem))
      have kept : ∀ d ∈ c :: breaks, isKept d = true := by
        intro d mem
        refine isKept_of_isPlainChar (chars d ?_).1 (areEnds d mem)
        rw [← List.cons_append]
        exact List.mem_append_left _ mem
      rw [singleQuoted_breaks areEnds (fun d first => (apart d first).2)]
      exact (ih further).breaks (startsSolid_singleQuoted (fun c mem => (further c mem).1) apart)
        kept (chars c List.mem_cons_self).2 deep

theorem mem_singleQuoted {indent : Nat} {fresh : Bool} {cs : List Char} {d : Char}
    (mem : d ∈ singleQuoted indent fresh cs) : d = ' ' ∨ d = '\'' ∨ d ∈ cs := by
  have ofMargin (fresh : Bool) (mem : d ∈ if fresh then margin indent else []) : d = ' ' := by
    cases fresh with
    | true => exact List.eq_of_mem_replicate mem
    | false => simp at mem
  induction cs generalizing fresh with
  | nil =>
      rcases List.mem_append.1 mem with mem | mem
      · exact .inl (ofMargin fresh mem)
      · exact .inr (.inl (List.mem_singleton.1 mem))
  | cons c cs ih =>
      have behind (fresh : Bool) (mem : d ∈ singleQuoted indent fresh cs) :
          d = ' ' ∨ d = '\'' ∨ d ∈ c :: cs :=
        (ih mem).imp_right (.imp_right (List.mem_cons_of_mem c))
      rw [singleQuoted] at mem
      by_cases ends : isBreak c = true
      · rw [if_pos ends] at mem
        rcases List.mem_cons.1 mem with rfl | mem
        · exact .inr (.inr List.mem_cons_self)
        · exact behind true mem
      · rw [if_neg ends, List.append_assoc] at mem
        rcases List.mem_append.1 mem with mem | mem
        · exact .inl (ofMargin fresh mem)
        rcases List.mem_append.1 mem with mem | mem
        · by_cases quote : c = '\''
          · rw [if_pos quote] at mem
            exact .inr (.inl (by simpa using mem))
          · rw [if_neg quote] at mem
            exact .inr (.inr (List.mem_cons.2 (.inl (List.mem_singleton.1 mem))))
        · exact behind false mem

/-- A text between single quotes. -/
theorem Lexes.singleQuoted {cs : List Char} (chars : ∀ c ∈ cs, isPlainChar c = true ∧ c ≠ '\n')
    (runs : AreRuns isBreak cs) (column : Nat) :
    Lexes column (' ' :: '\'' :: (Yaml.singleQuoted (column + 2) false cs ++ ['\n']))
      [.scalar (String.ofList cs) false] := by
  refine Lexes.quoted (closes_singleQuoted (Nat.succ_pos _) chars runs) ?_ column
  intro d mem
  rcases mem_singleQuoted mem with rfl | rfl | mem
  · decide
  · decide
  · exact isAllowed_of_isPlainChar (chars d mem).1

/-! ### Double quotes -/

theorem hexValue?_hexDigit : ∀ n < 16, Lexer.hexValue? (hexDigit n) = some n := by decide

theorem foldlM_hexDigits (width n m : Nat) :
    (hexDigits width n).foldlM (fun m d => (Lexer.hexValue? d).map (16 * m + ·)) m =
      some (16 ^ width * m + n % 16 ^ width) := by
  induction width generalizing n with
  | zero => simp [hexDigits, Nat.mod_one]
  | succ width ih =>
      have last := hexValue?_hexDigit (n % 16) (Nat.mod_lt n (by decide))
      have whole : n % (16 * 16 ^ width) = n % 16 + 16 * (n / 16 % 16 ^ width) := Nat.mod_mul
      rw [hexDigits, List.foldlM_append, ih]
      simp only [Option.bind_eq_bind, Option.bind_some, List.foldlM_cons, List.foldlM_nil, last,
        Option.map_some]
      rw [Nat.pow_succ', whole, Nat.mul_add, Nat.mul_assoc]
      show some _ = some _
      congr 1
      omega

theorem length_hexDigits (width n : Nat) : (hexDigits width n).length = width := by
  induction width generalizing n with
  | zero => rfl
  | succ width ih =>
      rw [hexDigits, List.length_append, ih]
      rfl

theorem isAllowed_hexDigit : ∀ n < 16, isAllowed (hexDigit n) = true := by decide

theorem isAllowed_hexDigits {width n : Nat} {d : Char} (mem : d ∈ hexDigits width n) :
    isAllowed d = true := by
  induction width generalizing n with
  | zero => simp [hexDigits] at mem
  | succ width ih =>
      rcases List.mem_append.1 mem with mem | mem
      · exact ih mem
      · obtain rfl := List.mem_singleton.1 mem
        exact isAllowed_hexDigit _ (Nat.mod_lt n (by decide))

theorem escape?_hexDigits {c letter : Char} {width : Nat}
    (isLetter : Lexer.hexLength? letter = some width) (short : c.toNat < 16 ^ width)
    (after : List Char) :
    Lexer.escape? (letter :: (hexDigits width c.toNat ++ after)) =
      some (c, (hexDigits width c.toNat).length + 1) := by
  have taken : (hexDigits width c.toNat ++ after).take width = hexDigits width c.toNat :=
    List.take_left' (length_hexDigits width c.toNat)
  have value := foldlM_hexDigits width c.toNat 0
  rw [Nat.mod_eq_of_lt short, Nat.mul_zero, Nat.zero_add] at value
  have valid : ¬ ((0xD800 ≤ c.toNat ∧ c.toNat ≤ 0xDFFF) ∨ 0x10FFFF < c.toNat) := by
    have : c.toNat < 0xD800 ∨ (0xDFFF < c.toNat ∧ c.toNat < 0x110000) := c.valid
    omega
  unfold Lexer.escape?
  simp only [isLetter, taken, length_hexDigits, value, Option.bind_eq_bind, Option.bind_some,
    Nat.lt_irrefl, if_false, if_neg valid, Char.ofNat_toNat]
  rfl

/-- The escapes that are one letter. -/
theorem escapeChar?_letters : ∀ p ∈ ([(0x0, '0'), (0x7, 'a'), (0x8, 'b'), (0x9, 't'), (0xA, 'n'),
    (0xB, 'v'), (0xC, 'f'), (0xD, 'r'), (0x1B, 'e'), (0x22, '"'), (0x5C, '\\'), (0x85, 'N'),
    (0xA0, '_'), (0x2028, 'L'), (0x2029, 'P')] : List (Nat × Char)),
    isBreak p.2 = false ∧ isAllowed p.2 = true ∧ Lexer.hexLength? p.2 = none ∧
      Lexer.escapeChar? p.2 = some (Char.ofNat p.1) := by
  decide

/-- Every escape is read back. -/
theorem escape_cases (c : Char) :
    (escape c = [c] ∧ isPlainChar c = true ∧ isBreak c = false ∧ c ≠ '"' ∧ c ≠ '\\') ∨
    ∃ letter digits, escape c = '\\' :: letter :: digits ∧ isBreak letter = false ∧
      (∀ d ∈ letter :: digits, isAllowed d = true) ∧
      ∀ after, Lexer.escape? (letter :: (digits ++ after)) = some (c, digits.length + 1) := by
  unfold escape
  by_cases plain : (isPlainChar c && !isBreak c && c != '"' && c != '\\') = true
  · rw [if_pos plain]
    simp only [Bool.and_eq_true, Bool.not_eq_true', bne_iff_ne] at plain
    obtain ⟨⟨⟨isPlain, noBreak⟩, noQuote⟩, noEscape⟩ := plain
    exact .inl ⟨rfl, isPlain, noBreak, noQuote, noEscape⟩
  · rw [if_neg plain]
    right
    split
    next letter found =>
      obtain ⟨before, after, split, -⟩ := List.lookup_eq_some_iff.1 found
      obtain ⟨noBreak, allowed, noHex, isChar⟩ := escapeChar?_letters (c.toNat, letter) (by
        rw [split]
        exact List.mem_append_right _ List.mem_cons_self)
      refine ⟨letter, [], rfl, noBreak, by simpa using allowed, fun after => ?_⟩
      rw [Lexer.escape?, noHex]
      simp [isChar]
    next =>
      have hex {letter : Char} {width : Nat} (isLetter : Lexer.hexLength? letter = some width)
          (noBreak : isBreak letter = false) (allowed : isAllowed letter = true)
          (short : c.toNat < 16 ^ width) :
          ∃ letter' digits, '\\' :: letter :: hexDigits width c.toNat = '\\' :: letter' :: digits ∧
            isBreak letter' = false ∧ (∀ d ∈ letter' :: digits, isAllowed d = true) ∧ ∀ after,
              Lexer.escape? (letter' :: (digits ++ after)) = some (c, digits.length + 1) :=
        ⟨letter, _, rfl, noBreak,
          List.forall_mem_cons.2 ⟨allowed, fun d mem => isAllowed_hexDigits mem⟩,
          escape?_hexDigits isLetter short⟩
      split_ifs with byte plane
      · exact hex rfl (by decide) (by decide) (by omega)
      · exact hex rfl (by decide) (by decide) (by omega)
      · have : c.toNat < 0xD800 ∨ (0xDFFF < c.toNat ∧ c.toNat < 0x110000) := c.valid
        exact hex rfl (by decide) (by decide) (by omega)

namespace Lexer

/-- An escape. -/
theorem Closes.escape {written text : List Char} {c letter : Char} {digits : List Char}
    (closes : Closes false written text) (noBreak : isBreak letter = false)
    (escapes : ∀ after, escape? (letter :: (digits ++ after)) = some (c, digits.length + 1)) :
    Closes false ('\\' :: letter :: (digits ++ written)) (c :: text) := by
  refine @Closes.step false written text ('\\' :: letter :: digits) [c] closes
    (List.cons_ne_nil _ _) ?_
  intro s after read line start offset bound inside _
  refine ⟨line, start + (digits.length + 1 + 1), offset + byteLength ('\\' :: letter :: digits),
    Nat.le_refl _, Nat.succ_pos _, ?_⟩
  have noQuote : '\\' ≠ '"' := by decide
  have advanced : (s.moved ('\\' :: letter :: (digits ++ (written ++ after))) line start
      offset).advance (digits.length + 1 + 1) =
      s.moved (written ++ after) line (start + (digits.length + 1 + 1))
        (offset + byteLength ('\\' :: letter :: digits)) := by
    rw [advance_moved]
    simp
  rw [List.cons_append, List.cons_append, quoted?]
  simp only [rest_moved, column_moved, if_neg (notAtMark inside _), Bool.false_eq_true, false_and,
    if_false, noQuote, Bool.not_false, true_and, if_true, List.head?_cons, Option.any_some, noBreak,
    escapes, Option.bind_eq_bind, Option.bind_some, advanced]
  rfl

end Lexer

theorem flatMap_escape_margin (width : Nat) : (margin width).flatMap escape = margin width := by
  induction width with
  | zero => rfl
  | succ width ih =>
      show escape ' ' ++ (margin width).flatMap escape = _
      rw [ih]
      rfl

theorem startsSolid_escaped {cs : List Char} (noSpace : ∀ c ∈ cs.head?, c ≠ ' ') :
    Lexer.StartsSolid (cs.flatMap escape ++ ['"']) := by
  cases cs with
  | nil => exact ⟨'"', rfl, by decide⟩
  | cons c cs =>
      rw [List.flatMap_cons]
      rcases escape_cases c with ⟨same, plain, noBreak, -, -⟩ | ⟨letter, digits, same, -⟩
      · rw [same]
        exact ⟨c, rfl, by simp [isGap_eq_of_isPlainChar plain, noSpace c rfl], noBreak⟩
      · rw [same]
        exact ⟨'\\', rfl, by decide⟩

theorem hasPair_never (p : Char → Bool) (cs : List Char) :
    hasPair p (fun _ => false) cs = false ∧ hasPair (fun _ => false) p cs = false := by
  induction cs with
  | nil => exact ⟨rfl, rfl⟩
  | cons c cs ih =>
      cases cs with
      | nil => exact ⟨rfl, rfl⟩
      | cons d cs => simp [hasPair, ih]

theorem closes_escaped (cs : List Char) : Lexer.Closes false (cs.flatMap escape ++ ['"']) cs := by
  have runs : AreRuns (fun _ => false) cs :=
    areRuns (hasPair_never (· == ' ') cs).1 (hasPair_never (· == ' ') cs).2
  induction runs with
  | nil => exact Lexer.closes_mark
  | @char c cs noSpace noEnd runs ih =>
      rw [List.flatMap_cons, List.append_assoc]
      rcases escape_cases c with ⟨same, plain, noBreak, noQuote, noEscape⟩ |
        ⟨letter, digits, same, noBreak, -, escapes⟩
      · rw [same]
        have noGap : isGap c = false := by simp [isGap_eq_of_isPlainChar plain, noSpace]
        exact ih.char noGap noBreak noQuote (.inr noEscape)
      · rw [same]
        exact ih.escape noBreak escapes
  | @spaces cs width apart runs ih =>
      rw [List.flatMap_append, flatMap_escape_margin, List.append_assoc]
      exact ih.spaces (startsSolid_escaped fun c first => (apart c first).1) width
  | breaks areEnds apart runs ih => exact Bool.noConfusion (areEnds _ List.mem_cons_self)

theorem isAllowed_escape {c d : Char} (mem : d ∈ escape c) : isAllowed d = true := by
  rcases escape_cases c with ⟨same, plain, -⟩ | ⟨letter, digits, same, -, allowed, -⟩
  · rw [same] at mem
    obtain rfl := List.mem_singleton.1 mem
    exact isAllowed_of_isPlainChar plain
  · rw [same] at mem
    rcases List.mem_cons.1 mem with rfl | mem
    · decide
    · exact allowed d mem

/-- A text between double quotes. -/
theorem Lexes.doubleQuoted (cs : List Char) (column : Nat) :
    Lexes column (' ' :: '"' :: (cs.flatMap escape ++ ['"'] ++ ['\n']))
      [.scalar (String.ofList cs) false] := by
  refine Lexes.quoted (closes_escaped cs) ?_ column
  intro d mem
  rcases List.mem_append.1 mem with mem | mem
  · obtain ⟨c, -, mem⟩ := List.mem_flatMap.1 mem
    exact isAllowed_escape mem
  · obtain rfl := List.mem_singleton.1 mem
    decide

end MixinIndex.Yaml
