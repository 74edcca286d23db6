import Mathlib.Data.List.TakeWhile
import Mathlib.Tactic.SplitIfs
import MixinIndex.Yaml.Writer

/-!
# Lines of YAML in block style

How the scan goes from the content of one line to that of the next: what it makes of keys, of dashes
and of the ends of collections, and what it needs of the value between them.

## Main definitions

* `Yaml.Lexer.Yields`: the tokens that a scan finds in all
* `Yaml.Lexer.lineAt`: the scan at the content of a line
* `Yaml.IsWord`: a key that is written as it is
* `Yaml.Lexes`: what is written is scanned as a value

## Main statements

* `Yaml.Lexer.Yields.step`: one more token
* `Yaml.Lexer.Yields.of_lineBreak`, `Yaml.Lexer.Yields.close`: the end of a line and of a collection
* `Yaml.Lexer.Yields.key`, `Yaml.Lexer.Yields.dash`: the start of an entry and of an item

## Design notes

The scan is followed from its end: what it finds from some place on is known once it is known what
it finds from the next place on.  So nothing has to be said about the state between two places but
what the next token needs, and the bound of the scan is compared in `Yields.step` only.

Some values end before the break of their line and some after the margin of the next; `Lexes` speaks
of both, since it ends at the next content.
-/

namespace MixinIndex.Yaml

open Text

/-! ### Places -/

namespace Lexer

variable {s t : Lexer} {rest : List Char} {line column offset : Nat}

/-- The scan at another place. -/
def moved (s : Lexer) (rest : List Char) (line column offset : Nat) : Lexer :=
  { s with rest, line, column, offset }

/-- The scan outside of flow collections. -/
def inBlock (emitted : List Token) (indent : Int) (outer : List Int) (keyAllowed : Bool)
    (pending : Option PendingKey := none) : Lexer :=
  { rest := [], emitted, count := emitted.length, indent, outer, keyAllowed, pending }

@[simp] theorem rest_moved : (s.moved rest line column offset).rest = rest := rfl
@[simp] theorem column_moved : (s.moved rest line column offset).column = column := rfl
@[simp] theorem pending_moved : (s.moved rest line column offset).pending = s.pending := rfl
@[simp] theorem inFlow_moved : (s.moved rest line column offset).inFlow = s.inFlow := rfl

theorem keyAllowed_advance (n : Nat) : (s.advance n).keyAllowed = s.keyAllowed := rfl

theorem advance_moved (n : Nat) :
    (s.moved rest line column offset).advance n =
      s.moved (rest.drop n) line (column + n) (offset + byteLength (rest.take n)) := rfl

theorem newLine_moved :
    (s.moved rest line column offset).newLine = s.moved (takeBreak rest).2 (line + 1) 0 0 := rfl

end Lexer

/-! ### Between tokens -/

/-- Nothing is skipped before the first character of a text. -/
def StartsContent (cs : List Char) : Prop :=
  ∀ c ∈ cs.head?, isGap c = false ∧ c ≠ '#' ∧ isBreak c = false ∧ Lexer.isByteOrderMark c = false

theorem StartsContent.stops {cs : List Char} (content : StartsContent cs) :
    ∀ c ∈ cs.head?, isGap c = false ∧ isBreak c = false := by
  intro c mem
  obtain ⟨noGap, -, noBreak, -⟩ := content c mem
  exact ⟨noGap, noBreak⟩

theorem startsContent_cons {c : Char} {cs : List Char}
    (starts : isGap c = false ∧ c ≠ '#' ∧ isBreak c = false ∧ Lexer.isByteOrderMark c = false) :
    StartsContent (c :: cs) := by
  rintro d first
  obtain rfl := Option.some.inj first
  exact starts

/-- The spaces before a column. -/
abbrev margin (column : Nat) : List Char := List.replicate column ' '

namespace Lexer

variable {s t : Lexer} {tail : List Char} {line column offset : Nat}

theorem skip_of_startsContent (content : StartsContent s.rest) (bound : Nat) :
    s.skip bound = s := by
  cases bound with
  | zero => rfl
  | succ bound =>
      unfold skip
      split
      next => rfl
      next c cs rest =>
        obtain ⟨noGap, noComment, noBreak, noMark⟩ := content c (by rw [rest]; rfl)
        have noSpace : c ≠ ' ' := by
          rintro rfl
          exact absurd noGap (by decide)
        have noTab : c ≠ '\t' := by
          rintro rfl
          exact absurd noGap (by decide)
        rw [if_neg (by simp [noSpace, noTab, noMark]), if_neg noComment, if_neg (by simp [noBreak])]

theorem skip_margin (content : StartsContent tail) (width bound : Nat) (enough : width ≤ bound) :
    (s.moved (margin width ++ tail) line column offset).skip bound =
      s.moved tail line (column + width) (offset + width) := by
  induction width generalizing column offset bound with
  | zero => exact skip_of_startsContent content bound
  | succ width ih =>
      obtain ⟨bound, rfl⟩ := Nat.exists_eq_add_of_lt enough
      have step : (s.moved (margin (width + 1) ++ tail) line column offset).skip
          (width + bound + 1) =
          (s.moved (margin width ++ tail) line (column + 1) (offset + 1)).skip (width + bound) := by
        rfl
      rw [step, ih _ (Nat.le_add_right _ _)]
      simp only [Nat.add_assoc, Nat.add_comm 1]

/-! ### Runs -/

/-- What stands between tokens leads from one state to another. -/
structure Settles (s t : Lexer) : Prop where
  length_le : t.rest.length ≤ s.rest.length
  skips : ∀ bound, s.rest.length ≤ bound → (s.skip bound).dropStale? = some t

/-- The scan finds the given tokens in all, with any bound that is large enough. -/
def Yields (s : Lexer) (ts : List Token) : Prop :=
  ∀ bound, s.rest.length + 2 ≤ bound → s.run? bound = some ts

theorem Yields.of_settles {ts : List Token} (settles : s.Settles t) (settled : t.Settles t)
    (next : t.Yields ts) : s.Yields ts := by
  intro bound enough
  obtain ⟨bound, rfl⟩ : ∃ b, bound = b + 1 := ⟨bound - 1, by omega⟩
  have shorter := settles.length_le
  have found := next (bound + 1) (by omega)
  unfold run? at found ⊢
  rw [settles.skips bound (by omega)]
  rw [settled.skips bound (by omega)] at found
  exact found

/-- One more token. -/
theorem Yields.step {ts : List Token} {c : Char} {cs : List Char} (settles : s.Settles t)
    (rest : t.rest = c :: cs) (noGap : isGap c = false)
    (token : ∀ bound, t.rest.length < bound → ∃ s',
      (t.unroll t.column).token? bound c cs = some s' ∧ s'.rest.length < t.rest.length ∧
        s'.Yields ts) : s.Yields ts := by
  intro bound enough
  obtain ⟨bound, rfl⟩ : ∃ b, bound = b + 1 := ⟨bound - 1, by omega⟩
  have noLonger := settles.length_le
  obtain ⟨s', found, shorter, next⟩ := token bound (by omega)
  unfold run?
  rw [settles.skips bound (by omega)]
  simp only [Option.bind_eq_bind, Option.bind_some, rest, noGap]
  rw [found]
  exact next bound (by omega)

/-- A state from which a later line needs nothing but its tokens and blocks. -/
structure IsDone (s : Lexer) (line : Nat) : Prop where
  blocks : s.outerPending = []
  counted : s.count = s.emitted.length
  stale : ∀ p ∈ s.pending, p.required = false ∧ p.line < line

/-- The start of the content of a line, where everything is as the blocks so far demand. -/
abbrev lineAt (emitted : List Token) (indent : Int) (outer : List Int) (tail : List Char)
    (line column : Nat) : Lexer :=
  (inBlock emitted indent outer true).moved tail line column column

theorem dropStale?_of_isDone (done : s.IsDone s.line) :
    s.dropStale? = some { s with pending := none } := by
  obtain ⟨blocks, -, stale⟩ := done
  unfold dropStale?
  rw [blocks]
  cases pending : s.pending with
  | none => simp
  | some p =>
      obtain ⟨notRequired, before⟩ := stale p (by rw [pending]; rfl)
      simp [notRequired, before]

theorem settles_of_isDone (done : s.IsDone s.line) (content : StartsContent s.rest) :
    s.Settles { s with pending := none } where
  length_le := Nat.le_refl _
  skips bound _ := by rw [skip_of_startsContent content, dropStale?_of_isDone done]

theorem settles_lineAt {emitted : List Token} {indent : Int} {outer : List Int}
    (content : StartsContent tail) :
    (lineAt emitted indent outer tail line column).Settles
      (lineAt emitted indent outer tail line column) :=
  settles_of_isDone ⟨rfl, rfl, by simp [inBlock]⟩ content

variable {ts : List Token}

/-- A scalar may end at the content of a later line. -/
theorem Yields.of_content (done : s.IsDone s.line) (allowed : s.keyAllowed = true)
    (content : StartsContent s.rest) (margined : s.offset = s.column)
    (next : (lineAt s.emitted s.indent s.outer s.rest s.line s.column).Yields ts) :
    s.Yields ts := by
  have forgotten : { s with pending := none } =
      lineAt s.emitted s.indent s.outer s.rest s.line s.column := by
    obtain ⟨blocks, counted, -⟩ := done
    cases s
    simp_all [moved, inBlock]
  refine Yields.of_settles ?_ (settles_lineAt content) next
  rw [← forgotten]
  exact settles_of_isDone done content

/-- Otherwise the line ends, and the content of the next line follows. -/
theorem Yields.of_lineBreak (done : s.IsDone (s.line + 1)) {width : Nat}
    (rest : s.rest = '\n' :: (margin width ++ tail)) (content : StartsContent tail)
    (next : (lineAt s.emitted s.indent s.outer tail (s.line + 1) width).Yields ts) :
    s.Yields ts := by
  refine Yields.of_settles ?_ (settles_lineAt content) next
  obtain ⟨blocks, counted, stale⟩ := done
  refine ⟨by simp [rest]; omega, fun bound enough => ?_⟩
  rw [rest, List.length_cons, List.length_append, List.length_replicate] at enough
  obtain ⟨bound, rfl⟩ : ∃ b, bound = b + 1 := ⟨bound - 1, by omega⟩
  have noMark : isByteOrderMark '\n' = false := by decide
  have entered : s.skip (bound + 1) =
      (moved { s with keyAllowed := true } (margin width ++ tail) (s.line + 1) 0 0).skip bound := by
    rw [skip, rest]
    simp [noMark, isBreak, newLine, takeBreak, rest, inFlow, blocks, moved]
  have done : IsDone (moved { s with keyAllowed := true } tail (s.line + 1) width width)
      (s.line + 1) := ⟨blocks, counted, stale⟩
  rw [entered, skip_margin content _ _ (by omega), Nat.zero_add, dropStale?_of_isDone done]
  simp [moved, inBlock, blocks, counted]

/-- A line that is less deep than a block closes it. -/
theorem Yields.close {emitted : List Token} {indent previous : Int} {outer : List Int}
    (content : StartsContent tail) (left : (column : Int) < indent)
    (next : (lineAt (.blockEnd :: emitted) previous outer tail line column).Yields ts) :
    (lineAt emitted indent (previous :: outer) tail line column).Yields ts := by
  have unrolled (target : Int) (deeper : target < indent) :
      (lineAt emitted indent (previous :: outer) tail line column).unroll target =
        (lineAt (.blockEnd :: emitted) previous outer tail line column).unroll target := by
    show closeBlocks target (previous :: outer) _ = _
    unfold closeBlocks
    exact if_neg (Int.not_le.2 deeper)
  intro bound enough
  obtain ⟨bound, rfl⟩ : ∃ b, bound = b + 1 := ⟨bound - 1, by omega⟩
  have found := next (bound + 1) enough
  rw [rest_moved] at enough
  unfold run? at found ⊢
  rw [(settles_lineAt content).skips bound (by simp; omega)] at found ⊢
  simp only [Option.bind_eq_bind, Option.bind_some, rest_moved] at found ⊢
  cases tail with
  | nil =>
      simp only at found ⊢
      rw [unrolled (-1) (by omega)]
      exact found
  | cons c cs =>
      simp only at found ⊢
      rw [column_moved, unrolled column left]
      exact found

/-- Nothing follows inside of one block. -/
theorem yields_blockEnd {emitted : List Token} :
    (lineAt emitted 0 [-1] [] line column).Yields (.blockEnd :: emitted).reverse := by
  intro bound enough
  obtain ⟨bound, rfl⟩ : ∃ b, bound = b + 1 := ⟨bound - 1, by omega⟩
  unfold run?
  rw [(settles_lineAt (by simp [StartsContent])).skips bound (by simp)]
  rfl

/-! ### Tokens of blocks -/

/-- Where nothing at its start means more than itself, a plain scalar starts. -/
theorem token?_plain {c : Char} {cs : List Char} {bound : Nat} (blocks : s.outerPending = [])
    (rest : s.rest = c :: cs) (noLead : leadIndicator (c :: cs) = false)
    (noMark : s.column = 0 → c ≠ '-' ∧ c ≠ '.') :
    s.token? bound c cs =
      s.saveKey?.bind fun s =>
        plain? (s.indent + 1) { s with keyAllowed := false } [] {} bound := by
  have noDocument (mark : Char) (isMark : mark = '-' ∨ mark = '.') :
      ¬ (s.column = 0 ∧ startsMark [mark, mark, mark] s.rest = true) := by
    rintro ⟨first, starts⟩
    rw [rest] at starts
    have same : mark = c := by
      simp [startsMark] at starts
      exact starts.1.1
    rcases isMark with rfl | rfl
    · exact (noMark first).1 same.symm
    · exact (noMark first).2 same.symm
  have notInFlow : s.inFlow = false := by rw [inFlow, blocks]; rfl
  unfold leadIndicator at noLead
  rw [Bool.or_eq_false_iff] at noLead
  obtain ⟨noLead, noGap⟩ := noLead
  have free : ∀ d ∈ ['#', ',', '[', ']', '{', '}', '&', '*', '!', '|', '>', '\'', '"', '%', '@',
      '`'], c ≠ d := by
    rintro d mem rfl
    rw [isLeadMark, List.contains_iff_mem.2 mem] at noLead
    exact Bool.noConfusion noLead
  have noSign (d : Char) (isSign : d = '-' ∨ d = '?' ∨ d = ':') : ¬ (c = d ∧ atGap cs = true) := by
    rintro ⟨rfl, gap⟩
    rcases isSign with rfl | rfl | rfl
    all_goals simp [gap] at noGap
  simp only [List.mem_cons, List.not_mem_nil, or_false, forall_eq_or_imp, forall_eq] at free
  have isPlain : (!isIndicator c) = true ∨ (c = '-' ∧ (!atGap cs) = true) ∨
      (!s.inFlow) = true ∧ (c = '?' ∨ c = ':') ∧ (!atGap cs) = true := by
    by_cases sign : c = '-' ∨ c = '?' ∨ c = ':'
    · have noGap : (!atGap cs) = true := by
        rw [Bool.not_eq_true', Bool.eq_false_iff]
        exact fun gap => noSign c sign ⟨rfl, gap⟩
      rcases sign with dash | mark
      · exact .inr (.inl ⟨dash, noGap⟩)
      · exact .inr (.inr ⟨by rw [notInFlow]; rfl, mark, noGap⟩)
    · left
      rw [not_or, not_or] at sign
      simp [isIndicator, sign, free]
  unfold token?
  rw [if_neg (fun h => free.2.2.2.2.2.2.2.2.2.2.2.2.2.1 h.2), if_neg (noDocument '-' (.inl rfl)),
    if_neg (noDocument '.' (.inr rfl))]
  rw [notInFlow] at isPlain
  simp only [free, notInFlow, if_false, Bool.false_eq_true, false_or, false_and, or_self]
  rw [if_neg (noSign '-' (.inl rfl)), if_neg (noSign '?' (.inr (.inl rfl))),
    if_neg (noSign ':' (.inr (.inr rfl))), if_pos isPlain]
  rfl

theorem unroll_of_le (shallow : s.indent ≤ s.column) : s.unroll s.column = s := by
  unfold unroll
  split_ifs
  · rfl
  · unfold closeBlocks
    split
    · rfl
    · exact if_pos shallow

theorem token?_value {cs : List Char} {bound : Nat} (inside : 0 < s.column)
    (gap : atGap cs = true) : s.token? bound ':' cs = s.value? := by
  simp [token?, gap, Nat.ne_of_gt inside]

theorem token?_blockEntry {cs : List Char} {bound : Nat} (rest : s.rest = '-' :: cs)
    (gap : atGap cs = true) : s.token? bound '-' cs = s.blockEntry? := by
  have noDashes : startsMark ['-', '-', '-'] s.rest = false := by
    rw [rest]
    cases cs with
    | nil => rfl
    | cons c cs =>
        have : '-' ≠ c := by
          rintro rfl
          exact absurd gap (by simp [atGap, isGap, isBreak])
        simp [startsMark, this]
  have noDots : startsMark ['.', '.', '.'] s.rest = false := by
    rw [rest]
    rfl
  simp [token?, gap, noDashes, noDots]

theorem fold?_of_stop {indent : Int} {f : Fold} {bound : Nat}
    (stops : ∀ c ∈ s.rest.head?, isGap c = false ∧ isBreak c = false) :
    fold? indent s f (bound + 1) = some (f, s) := by
  unfold fold?
  split
  next => rfl
  next c cs rest =>
    obtain ⟨noGap, noBreak⟩ := stops c (by rw [rest]; rfl)
    rw [if_neg (by simp [noGap]), if_neg (by simp [noBreak])]

/-- A plain scalar without gaps. -/
theorem plain?_of_run {indent : Int} {run after : List Char} {bound : Nat}
    (blocks : s.outerPending = []) (rest : s.rest = run ++ after)
    (starts : ∃ c cs, run = c :: cs ∧ c ≠ '#' ∧ (s.column = 0 → c ≠ '-' ∧ c ≠ '.'))
    (runs : plainRun? false s.rest = some run)
    (stops : ∀ c ∈ after.head?, isGap c = false ∧ isBreak c = false) :
    plain? indent s [] {} (bound + 2) =
      some { (s.advance run.length).emit (.scalar (String.ofList run) true) with
        keyAllowed := s.keyAllowed } := by
  obtain ⟨c, cs, split, noComment, noMark⟩ := starts
  have noStop : ¬ ((s.column = 0 ∧ atDocumentMark s.rest = true) ∨ s.rest.head? = some '#') := by
    rw [rest, split]
    rintro (⟨first, mark⟩ | comment)
    · have := noMark first
      simp [atDocumentMark, startsMark, Ne.symm this.1, Ne.symm this.2] at mark
    · exact noComment (Option.some.inj comment)
  have notInFlow : s.inFlow = false := by rw [inFlow, blocks]; rfl
  have stopped : fold? indent (s.advance run.length) {} (bound + 1) =
      some ({}, s.advance run.length) := by
    refine fold?_of_stop ?_
    rw [advance, rest, List.drop_left]
    exact stops
  have nonempty : run.isEmpty = false := by
    rw [split]
    rfl
  unfold plain?
  rw [notInFlow, runs]
  simp only [if_neg noStop, Option.bind_eq_bind, Option.bind_some, nonempty]
  simp [stopped, keyAllowed_advance]

/-- The part of a plain scalar before what ends it. -/
theorem plainRun?_append {run after : List Char}
    (noGap : ∀ c ∈ run, isGap c = false ∧ isBreak c = false) (noColon : run.getLast? ≠ some ':')
    (stops : plainRun? false after = some []) : plainRun? false (run ++ after) = some run := by
  induction run with
  | nil => exact stops
  | cons c run ih =>
      rw [List.forall_mem_cons] at noGap
      have goesOn : ¬ (c = ':' ∧ atGap (run ++ after) = true) := by
        rintro ⟨rfl, gap⟩
        cases run with
        | nil => exact noColon rfl
        | cons d run =>
            have := noGap.2 d List.mem_cons_self
            simp [atGap, this] at gap
      have noColon : run.getLast? ≠ some ':' := by
        intro last
        refine noColon ?_
        rw [List.getLast?_cons, last]
        rfl
      rw [List.cons_append, plainRun?, if_neg (by simp [noGap.1]), if_neg goesOn,
        if_neg (by simp), if_neg (by simp), ih noGap.2 noColon]
      rfl

end Lexer

/-! ### Keys -/

/-- The characters of keys that are written as they are. -/
def isWordChar (c : Char) : Bool := c.isAlpha || c == '_'

/-- A key that is written as it is: letters and low lines that are read as a text. -/
structure IsWord (word : String) : Prop where
  nonempty : word.toList ≠ []
  letters : ∀ c ∈ word.toList, isWordChar c = true
  short : word.toList.length ≤ Lexer.maxKeyLength
  isText : resolve? word = some (.string word)

theorem toNat_lt_of_isWordChar {c : Char} (letter : isWordChar c = true) : c.toNat < 0x80 := by
  rw [isWordChar, Bool.or_eq_true, beq_iff_eq] at letter
  rcases letter with letter | rfl
  · have isCased : (c.isUpper || c.isLower) = true := letter
    rcases (Bool.or_eq_true _ _).mp isCased with upper | lower
    · have within : 'A'.val ≤ c.val ∧ c.val ≤ 'Z'.val := of_decide_eq_true upper
      exact Nat.lt_of_le_of_lt (UInt32.le_iff_toNat_le.1 within.2) (by decide)
    · have within : c.val ≤ 'z'.val := of_decide_eq_true ((Bool.and_eq_true _ _).mp lower).2
      exact Nat.lt_of_le_of_lt (UInt32.le_iff_toNat_le.1 within) (by decide)
  · decide

/-- A letter of a word ends no scalar and starts nothing but one. -/
structure IsLetter (c : Char) : Prop where
  noGap : isGap c = false
  noBreak : isBreak c = false
  noByteOrderMark : Lexer.isByteOrderMark c = false
  noLeadMark : isLeadMark c = false
  noComment : c ≠ '#'
  noSign : c ≠ '?' ∧ c ≠ ':' ∧ c ≠ '-' ∧ c ≠ '.'
  allowed : isAllowed c = true
  size : c.utf8Size = 1

theorem isLetter_ofNat : ∀ n < 0x80, isWordChar (Char.ofNat n) = true →
    isGap (Char.ofNat n) = false ∧ isBreak (Char.ofNat n) = false ∧
    Lexer.isByteOrderMark (Char.ofNat n) = false ∧ isLeadMark (Char.ofNat n) = false ∧
    Char.ofNat n ≠ '#' ∧
    (Char.ofNat n ≠ '?' ∧ Char.ofNat n ≠ ':' ∧ Char.ofNat n ≠ '-' ∧ Char.ofNat n ≠ '.') ∧
    isAllowed (Char.ofNat n) = true ∧ (Char.ofNat n).utf8Size = 1 := by
  decide +kernel

theorem isLetter_of_isWordChar {c : Char} (letter : isWordChar c = true) : IsLetter c := by
  have facts := isLetter_ofNat c.toNat (toNat_lt_of_isWordChar letter)
  rw [Char.ofNat_toNat] at facts
  obtain ⟨noGap, noBreak, noByteOrderMark, noLeadMark, noComment, noSign, allowed, size⟩ :=
    facts letter
  exact ⟨noGap, noBreak, noByteOrderMark, noLeadMark, noComment, noSign, allowed, size⟩

theorem IsWord.startsContent {word : String} (isWord : IsWord word) (after : List Char) :
    StartsContent (word.toList ++ after) := by
  obtain ⟨c, cs, split⟩ := List.exists_cons_of_ne_nil isWord.nonempty
  have first := isLetter_of_isWordChar (isWord.letters c (by rw [split]; exact List.mem_cons_self))
  rw [split]
  exact startsContent_cons ⟨first.noGap, first.noComment, first.noBreak, first.noByteOrderMark⟩

theorem IsWord.byteLength_eq {word : String} (isWord : IsWord word) :
    byteLength word.toList = word.toList.length := by
  have letters := isWord.letters
  generalize word.toList = cs at letters
  induction cs with
  | nil => rfl
  | cons c cs ih =>
      rw [List.forall_mem_cons] at letters
      rw [byteLength_cons, ih letters.2, (isLetter_of_isWordChar letters.1).size, Nat.add_comm]
      rfl

namespace Lexer

variable {emitted opened : List Token} {indent : Int} {outer around : List Int} {line column : Nat}
  {after : List Char} {ts : List Token}

/-- How a node at a column finds the blocks around it: the innermost block may be its own, or it
opens one. -/
def Opens (column : Nat) (first : Token) (emitted : List Token) (indent : Int) (outer : List Int)
    (opened : List Token) (around : List Int) : Prop :=
  (indent = column ∧ opened = emitted ∧ around = outer) ∨
    (indent < column ∧ opened = first :: emitted ∧ around = indent :: outer)

/-- The scan after a word that may turn out to be a key. -/
abbrev afterWord (word : String) (emitted : List Token) (indent : Int) (outer : List Int)
    (after : List Char) (line column : Nat) : Lexer :=
  (inBlock (.scalar word true :: emitted) indent outer false
    (some ⟨emitted.length, indent == column, line, column, column⟩)).moved after line
      (column + word.toList.length) (column + word.toList.length)

theorem Opens.le {first : Token} (opens : Opens column first emitted indent outer opened around) :
    indent ≤ column := by
  rcases opens with ⟨rfl, -, -⟩ | ⟨below, -, -⟩
  · exact Int.le_refl _
  · exact Int.le_of_lt below

theorem plainRun?_word {word : String} (isWord : IsWord word) (gap : atGap after = true) :
    plainRun? false (word.toList ++ ':' :: after) = some word.toList := by
  refine plainRun?_append (fun d mem => ?_) ?_ (by simp [plainRun?, isGap, isBreak, gap])
  · have letter := isLetter_of_isWordChar (isWord.letters d mem)
    exact ⟨letter.noGap, letter.noBreak⟩
  · intro last
    exact (isLetter_of_isWordChar (isWord.letters ':' (List.mem_of_getLast? last))).noSign.2.1 rfl

theorem token?_word {word : String} {c : Char} {cs : List Char} {bound : Nat}
    (isWord : IsWord word) (split : word.toList = c :: cs) (gap : atGap after = true)
    (shallow : indent ≤ column) :
    ((lineAt emitted indent outer (word.toList ++ ':' :: after) line column).unroll column).token?
      (bound + 2) c (cs ++ ':' :: after) =
      some (afterWord word emitted indent outer (':' :: after) line column) := by
  have first := isLetter_of_isWordChar (isWord.letters c (by rw [split]; exact List.mem_cons_self))
  have noMark : c ≠ '-' ∧ c ≠ '.' := first.noSign.2.2
  have unrolled : (lineAt emitted indent outer (word.toList ++ ':' :: after) line column).unroll
      column = lineAt emitted indent outer (word.toList ++ ':' :: after) line column :=
    unroll_of_le shallow
  rw [unrolled, token?_plain rfl (by rw [rest_moved, split]; rfl)
    (by simp [leadIndicator, first.noLeadMark, first.noSign]) (fun _ => noMark)]
  show plain? _ ((inBlock emitted indent outer false
    (some ⟨emitted.length, indent == column, line, column, column⟩)).moved
      (word.toList ++ ':' :: after) line column column) [] {} (bound + 2) = _
  rw [plain?_of_run rfl rfl ⟨c, cs, split, first.noComment, fun _ => noMark⟩
    (plainRun?_word isWord gap) (by simp [isGap, isBreak])]
  rw [advance_moved, String.ofList_toList, List.drop_left, List.take_left, isWord.byteLength_eq]
  rfl

/-- A colon after a word makes it a key. -/
theorem value?_afterWord {word : String}
    (opens : Opens column .blockMappingStart emitted indent outer opened around) :
    (afterWord word emitted indent outer (':' :: after) line column).value? =
      some ((inBlock (.value :: .scalar word true :: .key :: opened) column around false).moved
        after line (column + word.toList.length + 1) (column + word.toList.length + 1)) := by
  have behind : emitted.length + 1 - emitted.length = 1 := by omega
  have behind' : emitted.length + 1 + 1 - emitted.length = 2 := by omega
  have size : byteLength [':'] = 1 := rfl
  rcases opens with ⟨rfl, rfl, rfl⟩ | ⟨below, rfl, rfl⟩
  · simp [value?, openBlock, inBlock, moved, emitAt, emit, advance, behind, size]
  · simp [value?, openBlock, inBlock, moved, emitAt, emit, advance, behind, behind', size, inFlow,
      below]

theorem settles_afterWord {word : String} (isWord : IsWord word) :
    (afterWord word emitted indent outer (':' :: after) line column).Settles
      (afterWord word emitted indent outer (':' :: after) line column) := by
  have short : ¬ maxKeyLength < word.toList.length := Nat.not_lt.2 isWord.short
  refine ⟨Nat.le_refl _, fun bound _ => ?_⟩
  rw [skip_of_startsContent (startsContent_cons (by decide))]
  unfold dropStale?
  simp [inBlock, moved, short]

/-- A key with its colon, at the start of a line. -/
theorem Yields.key {word : String} (isWord : IsWord word) (gap : atGap after = true)
    (opens : Opens column .blockMappingStart emitted indent outer opened around)
    (next : ∀ offset, ((inBlock (.value :: .scalar word true :: .key :: opened) column around
      false).moved after line (column + word.toList.length + 1) offset).Yields ts) :
    (lineAt emitted indent outer (word.toList ++ ':' :: after) line column).Yields ts := by
  obtain ⟨c, cs, split⟩ := List.exists_cons_of_ne_nil isWord.nonempty
  have first := isLetter_of_isWordChar (isWord.letters c (by rw [split]; exact List.mem_cons_self))
  have content : StartsContent (word.toList ++ ':' :: after) := isWord.startsContent _
  have named : (afterWord word emitted indent outer (':' :: after) line column).Yields ts := by
    have deeper : (afterWord word emitted indent outer (':' :: after) line column).unroll
        (column + word.toList.length : Nat) =
        afterWord word emitted indent outer (':' :: after) line column := by
      refine unroll_of_le ?_
      show indent ≤ (column + word.toList.length : Nat)
      have := opens.le
      omega
    have inside : 0 < column + word.toList.length := by
      rw [split, List.length_cons]
      omega
    refine Yields.step (settles_afterWord isWord) rfl (by decide) fun bound _ => ?_
    rw [column_moved, deeper, token?_value inside gap]
    exact ⟨_, value?_afterWord opens, by simp, next _⟩
  refine Yields.step (settles_lineAt content) (by rw [rest_moved, split]; rfl) first.noGap
    fun bound enough => ?_
  obtain ⟨bound, rfl⟩ : ∃ b, bound = b + 2 := ⟨bound - 2, by simp at enough; omega⟩
  refine ⟨_, token?_word isWord split gap opens.le, ?_, named⟩
  show (':' :: after).length < (word.toList ++ ':' :: after).length
  simp only [split, List.length_append, List.length_cons]
  omega

/-- A dash of a sequence at the column of the keys around it. -/
theorem Yields.dash (gap : atGap after = true)
    (next : ((inBlock (.blockEntry :: emitted) column outer true).moved after line (column + 1)
      (column + 1)).Yields ts) :
    (lineAt emitted column outer ('-' :: after) line column).Yields ts := by
  have content : StartsContent ('-' :: after) := startsContent_cons (by decide)
  have unrolled : (lineAt emitted column outer ('-' :: after) line column).unroll column =
      lineAt emitted column outer ('-' :: after) line column := unroll_of_le (Int.le_refl _)
  refine Yields.step (settles_lineAt content) rfl (by decide) fun bound _ => ⟨_, ?_, ?_, next⟩
  · have size : byteLength ['-'] = 1 := rfl
    rw [column_moved, unrolled, token?_blockEntry rfl gap]
    unfold blockEntry?
    simp [openBlock, dropKey?, inBlock, moved, emit, advance, size]
  · simp

end Lexer

/-! ### Values -/

/-- The text of a value in a collection at some column is scanned to the given tokens, whatever
content the next line starts with, if it is not deeper than the collection. -/
structure Lexes (column : Nat) (written : List Char) (tokens : List Token) : Prop where
  allowed : ∀ c ∈ written, isAllowed c = true
  separated : ∀ after, atGap (written ++ after) = true
  scans : ∀ {emitted : List Token} {outer : List Int} {keyAllowed : Bool} {tail : List Char}
    {line start offset width : Nat} {ts : List Token}, column < start → width ≤ column →
    StartsContent tail →
    (∀ line, (Lexer.lineAt (tokens.reverse ++ emitted) column outer tail line width).Yields ts) →
    ((Lexer.inBlock emitted column outer keyAllowed).moved (written ++ (margin width ++ tail))
      line start offset).Yields ts

namespace Lexer

/-- A value deeper than the collection around it is no key that is required. -/
theorem saveKey?_value (emitted : List Token) {column start : Nat} (deeper : column < start)
    (outer : List Int) (keyAllowed : Bool) (rest : List Char) (line offset : Nat) :
    ∃ pending : Option PendingKey,
      (∀ p ∈ pending, p.required = false ∧ p.line = line ∧ p.offset = offset) ∧
      ((inBlock emitted column outer keyAllowed).moved rest line start offset).saveKey? =
        some ((inBlock emitted column outer keyAllowed pending).moved rest line start offset) := by
  cases keyAllowed with
  | false => exact ⟨none, by simp, rfl⟩
  | true =>
      refine ⟨some ⟨emitted.length, (column : Int) == (start : Int), line, start, offset⟩, ?_, rfl⟩
      rintro p mem
      obtain rfl := Option.some.inj mem
      have : (column : Int) ≠ start := by omega
      exact ⟨beq_eq_false_iff_ne.2 this, rfl, rfl⟩

end Lexer

/-- Tokens after a space, the first of which leads to the others. -/
theorem Lexes.scan {column : Nat} {c : Char} {body : List Char} {tokens : List Token}
    (allowed : ∀ d ∈ c :: body, isAllowed d = true) (content : StartsContent (c :: body))
    (scans : ∀ {emitted : List Token} {outer : List Int} {keyAllowed : Bool} {tail : List Char}
      {line start offset width bound : Nat} {ts : List Token}, column < start → width ≤ column →
      StartsContent tail → (c :: (body ++ (margin width ++ tail))).length < bound →
      (∀ line, (Lexer.lineAt (tokens.reverse ++ emitted) column outer tail line width).Yields ts) →
      ∃ s, ((Lexer.inBlock emitted column outer keyAllowed).moved
          (c :: (body ++ (margin width ++ tail))) line start offset).token? bound c
          (body ++ (margin width ++ tail)) = some s ∧
        s.rest.length < (c :: (body ++ (margin width ++ tail))).length ∧ s.Yields ts) :
    Lexes column (' ' :: c :: body) tokens where
  allowed := by
    rintro d mem
    rcases List.mem_cons.1 mem with rfl | mem
    · decide
    · exact allowed d mem
  separated _ := rfl
  scans {emitted outer keyAllowed tail line start offset width ts} deeper shallow next later := by
    have content : StartsContent (c :: (body ++ (margin width ++ tail))) := by
      rintro d mem
      exact content d mem
    let value := (Lexer.inBlock emitted column outer keyAllowed).moved
      (c :: (body ++ (margin width ++ tail))) line (start + 1) (offset + 1)
    have settles : ((Lexer.inBlock emitted column outer keyAllowed).moved
        (margin 1 ++ (c :: (body ++ (margin width ++ tail)))) line start offset).Settles value := by
      refine ⟨by simp [value], fun bound enough => ?_⟩
      rw [Lexer.skip_margin content 1 bound (by simp at enough; omega)]
      exact Lexer.dropStale?_of_isDone ⟨rfl, rfl, by rintro p ⟨⟩⟩
    have unrolled : value.unroll value.column = value := by
      refine Lexer.unroll_of_le ?_
      show (column : Int) ≤ (start + 1 : Nat)
      omega
    refine Lexer.Yields.step settles rfl (content c rfl).1 fun bound enough => ?_
    rw [unrolled]
    exact scans (by omega) shallow next enough later

/-- Tokens that a line feed follows. -/
theorem Lexes.scalar {column : Nat} {c : Char} {body : List Char} {tokens : List Token}
    (allowed : ∀ d ∈ c :: body, isAllowed d = true) (content : StartsContent (c :: body))
    (scans : ∀ {emitted : List Token} {outer : List Int} {keyAllowed : Bool} {tail : List Char}
      {line start offset width bound : Nat} {ts : List Token}, column < start → width ≤ column →
      StartsContent tail → (c :: (body ++ '\n' :: (margin width ++ tail))).length < bound →
      (∀ line, (Lexer.lineAt (tokens.reverse ++ emitted) column outer tail line width).Yields ts) →
      ∃ s, ((Lexer.inBlock emitted column outer keyAllowed).moved
          (c :: (body ++ '\n' :: (margin width ++ tail))) line start offset).token? bound c
          (body ++ '\n' :: (margin width ++ tail)) = some s ∧
        s.rest.length < (c :: (body ++ '\n' :: (margin width ++ tail))).length ∧ s.Yields ts) :
    Lexes column (' ' :: c :: (body ++ ['\n'])) tokens := by
  refine Lexes.scan ?_ (fun d mem => content d mem) ?_
  · intro d mem
    rw [← List.cons_append, List.mem_append] at mem
    rcases mem with mem | mem
    · exact allowed d mem
    · obtain rfl := List.mem_singleton.1 mem
      decide
  · intro emitted outer keyAllowed tail line start offset width bound ts deeper shallow next
    rw [List.append_assoc]
    exact scans deeper shallow next

end MixinIndex.Yaml
