import MixinIndex.Proofs.Yaml.Plain

/-!
# Literal blocks

A text of several lines is written as it is, after a mark and with a margin before each line that is
not empty.  The marks say how many of the breaks at its end belong to it, and how deep it is if that
cannot be seen.

## Main definitions

* `Yaml.AreLines`: a text cut into lines that are not empty, with the way its end is marked

## Main statements

* `Yaml.exists_areLines`: a text is empty lines and then such lines
* `Yaml.AreLines.endMark_eq`, `Yaml.AreLines.closingBreak_eq`: what is written for the end
* `Yaml.Lexer.blockLines?_lines`: the lines are read back
* `Yaml.Lexes.literal`: the block as a value

## Design notes

The reader knows that the block is over when a line is not deep enough, and then it has skipped the
margin of what follows.  A text that consists of breaks has no line that would show its depth; it is
always marked with it.
-/

namespace MixinIndex.Yaml

open Text

/-! ### Lines of a text -/

/-- What has to happen to the breaks at the end of a literal block, so that all of them are kept. -/
def chompOf : List Char → Lexer.Chomp
  | [] => .strip
  | [_] => .clip
  | _ => .keep

/-- A text cut into lines, of which the first is not empty, with what has to happen to the breaks at
its end. -/
inductive AreLines : Lexer.Chomp → List Char → Prop where
  | last {line breaks : List Char} (nonempty : line ≠ []) (noBreak : ∀ c ∈ line, isBreak c = false)
    (kept : ∀ c ∈ breaks, isKept c = true) : AreLines (chompOf breaks) (line ++ breaks)
  | more {chomp : Lexer.Chomp} {line breaks body : List Char} {b : Char} (nonempty : line ≠ [])
    (noBreak : ∀ c ∈ line, isBreak c = false) (kept : ∀ c ∈ b :: breaks, isKept c = true)
    (lines : AreLines chomp body) : AreLines chomp (line ++ b :: (breaks ++ body))

variable {chomp : Lexer.Chomp} {body : List Char}

theorem AreLines.cons {c : Char} (lines : AreLines chomp body) (noBreak : isBreak c = false) :
    AreLines chomp (c :: body) := by
  cases lines with
  | last nonempty free kept =>
      exact .last (List.cons_ne_nil _ _) (List.forall_mem_cons.2 ⟨noBreak, free⟩) kept
  | more nonempty free kept lines =>
      exact .more (List.cons_ne_nil _ _) (List.forall_mem_cons.2 ⟨noBreak, free⟩) kept lines

/-- A text is breaks and then lines. -/
theorem exists_areLines (cs : List Char) (kept : ∀ c ∈ cs, isBreak c = true → isKept c = true) :
    ∃ breaks body, cs = breaks ++ body ∧ (∀ c ∈ breaks, isKept c = true) ∧
      (body = [] ∨ ∃ chomp, AreLines chomp body) := by
  induction cs with
  | nil => exact ⟨[], [], rfl, by simp, .inl rfl⟩
  | cons c cs ih =>
      obtain ⟨first, further⟩ := List.forall_mem_cons.1 kept
      obtain ⟨breaks, body, rfl, areKept, lines⟩ := ih further
      cases ends : isBreak c with
      | true => exact ⟨c :: breaks, body, rfl, List.forall_mem_cons.2 ⟨first ends, areKept⟩, lines⟩
      | false =>
          -- the first line ends where the breaks of the rest begin, if there are any
          refine ⟨[], c :: (breaks ++ body), rfl, by simp, .inr ?_⟩
          have single : ∀ d ∈ [c], isBreak d = false := by simpa using ends
          rcases lines with rfl | ⟨chomp, lines⟩
          · rw [List.append_nil]
            exact ⟨_, .last (List.cons_ne_nil c []) single areKept⟩
          · cases breaks with
            | nil => exact ⟨_, lines.cons ends⟩
            | cons b breaks => exact ⟨_, .more (List.cons_ne_nil c []) single areKept lines⟩

/-- The mark that says what happens to the breaks at the end of a literal block. -/
def chompMark : Lexer.Chomp → List Char
  | .strip => ['-']
  | .clip => []
  | .keep => ['+']

theorem AreLines.head (lines : AreLines chomp body) : ∃ c ∈ body.head?, isBreak c = false := by
  have first {line after : List Char} (nonempty : line ≠ [])
      (noBreak : ∀ c ∈ line, isBreak c = false) :
      ∃ c ∈ (line ++ after).head?, isBreak c = false := by
    obtain ⟨c, line, rfl⟩ := List.exists_cons_of_ne_nil nonempty
    exact ⟨c, rfl, noBreak c List.mem_cons_self⟩
  cases lines with
  | last nonempty noBreak => exact first nonempty noBreak
  | more nonempty noBreak => exact first nonempty noBreak

/-- What is written at the end of the last line. -/
def lineEnd : Lexer.Chomp → List Char
  | .strip => ['\n']
  | _ => []

/-! ### The text as it is written -/

theorem indentLines_line {indent : Nat} {line : List Char} (noBreak : ∀ c ∈ line, isBreak c = false)
    (rest : List Char) :
    indentLines indent false (line ++ rest) = line ++ indentLines indent false rest := by
  induction line with
  | nil => rfl
  | cons c line ih =>
      obtain ⟨first, further⟩ := List.forall_mem_cons.1 noBreak
      have step (cs : List Char) :
          indentLines indent false (c :: cs) = c :: indentLines indent false cs := by
        simp [indentLines, first]
      rw [List.cons_append, step, ih further]
      rfl

theorem indentLines_breaks {indent : Nat} {breaks : List Char}
    (kept : ∀ c ∈ breaks, isKept c = true) (rest : List Char) :
    indentLines indent true (breaks ++ rest) = breaks ++ indentLines indent true rest := by
  induction breaks with
  | nil => rfl
  | cons b breaks ih =>
      obtain ⟨first, further⟩ := List.forall_mem_cons.1 kept
      rw [List.cons_append, indentLines, if_pos (isBreak_of_isKept first), ih further]
      rfl

theorem indentLines_breaks_nil {indent : Nat} {breaks : List Char}
    (kept : ∀ c ∈ breaks, isKept c = true) : indentLines indent true breaks = breaks := by
  have written : indentLines indent true (breaks ++ []) = breaks ++ [] := indentLines_breaks kept []
  rwa [List.append_nil] at written

theorem indentLines_break {indent : Nat} {b : Char} (kept : isKept b = true) (rest : List Char) :
    indentLines indent false (b :: rest) = b :: indentLines indent true rest := by
  rw [indentLines, if_pos (isBreak_of_isKept kept)]

theorem indentLines_lastBreaks {indent : Nat} {breaks : List Char}
    (kept : ∀ c ∈ breaks, isKept c = true) : indentLines indent false breaks = breaks := by
  cases breaks with
  | nil => rfl
  | cons b breaks =>
      obtain ⟨first, further⟩ := List.forall_mem_cons.1 kept
      rw [indentLines_break first, indentLines_breaks_nil further]

theorem AreLines.exists_indentLines (lines : AreLines chomp body) (indent : Nat) :
    ∃ c rest, indentLines indent false body = c :: rest ∧ isBreak c = false := by
  obtain ⟨c, first, noBreak⟩ := lines.head
  obtain ⟨body, rfl⟩ := List.head?_eq_some_iff.1 first
  exact ⟨c, indentLines indent false body, by simp [indentLines, noBreak], noBreak⟩

theorem AreLines.indentLines_fresh (lines : AreLines chomp body) (indent : Nat) :
    indentLines indent true body = margin indent ++ indentLines indent false body := by
  obtain ⟨c, first, noBreak⟩ := lines.head
  obtain ⟨body, rfl⟩ := List.head?_eq_some_iff.1 first
  simp [indentLines, noBreak]

/-- The mark for the end of a text, of which the last character comes first. -/
def endMark : List Char → List Char
  | a :: b :: _ => if !isBreak a then ['-'] else if isBreak b then ['+'] else []
  | [a] => if isBreak a then ['+'] else ['-']
  | [] => ['-']

/-- The mark for a text that starts as its indentation could. -/
def startMark (cs : List Char) : List Char :=
  if cs.head?.any fun c => c == ' ' || isBreak c then ['2'] else []

theorem literalMarks_eq (cs : List Char) :
    literalMarks cs = startMark cs ++ endMark cs.reverse := by
  unfold literalMarks endMark startMark
  rfl

theorem endMark_of_breaks {cs : List Char} (nonempty : cs ≠ [])
    (ends : ∀ c ∈ cs, isBreak c = true) (after : List Char) (apart : after ≠ [] → 1 < cs.length) :
    endMark (cs ++ after) = ['+'] := by
  obtain ⟨a, cs, rfl⟩ := List.exists_cons_of_ne_nil nonempty
  obtain ⟨first, further⟩ := List.forall_mem_cons.1 ends
  cases cs with
  | nil =>
      cases after with
      | nil => simp [endMark, first]
      | cons c after => exact absurd (apart (List.cons_ne_nil _ _)) (by simp)
  | cons b cs => simp [endMark, first, further b List.mem_cons_self]

theorem AreLines.endMark_eq (lines : AreLines chomp body) (before : List Char) :
    endMark (before ++ body).reverse = chompMark chomp := by
  induction lines generalizing before with
  | @last line breaks nonempty noBreak kept =>
      obtain ⟨line, a, rfl⟩ := (List.eq_nil_or_concat line).resolve_left nonempty
      have last : isBreak a = false := noBreak a (by simp)
      cases breaks with
      | nil =>
          rw [List.append_nil, List.concat_eq_append, ← List.append_assoc, List.reverse_append]
          cases (before ++ line).reverse with
          | nil => simp [endMark, chompOf, chompMark, last]
          | cons b rest => simp [endMark, chompOf, chompMark, last]
      | cons b breaks =>
          cases breaks with
          | nil =>
              have ends := isBreak_of_isKept (kept b List.mem_cons_self)
              simp [endMark, chompOf, chompMark, last, ends]
          | cons d breaks =>
              rw [← List.append_assoc, List.reverse_append]
              refine endMark_of_breaks (by simp) (fun c mem => ?_) _ (by simp)
              exact isBreak_of_isKept (kept c (List.mem_reverse.1 mem))
  | @more chomp line breaks body b nonempty noBreak kept lines ih =>
      have split : before ++ (line ++ b :: (breaks ++ body)) =
          (before ++ (line ++ b :: breaks)) ++ body := by simp
      rw [split]
      exact ih _

namespace Lexer

variable {s : Lexer} {known : Option Nat} {tail : List Char} {line column width : Nat}

/-! ### Empty lines and margins -/

/-- The margin of a line, up to the indentation if that is known. -/
theorem blockBreaks?_margin {found : List Char} {deepest bound : Nat}
    (limit : ∀ i ∈ known, column + width ≤ i)
    (stops : ∀ c ∈ tail.head?, isBreak c = false ∧
      (known = some (column + width) ∨ isGap c = false)) (enough : width < bound) :
    blockBreaks? known (s.moved (margin width ++ tail) line column column) found deepest bound =
      some (found, max deepest (column + width),
        s.moved tail line (column + width) (column + width)) := by
  induction width generalizing column deepest bound with
  | zero =>
      obtain ⟨bound, rfl⟩ : ∃ b, bound = b + 1 := ⟨bound - 1, by omega⟩
      cases tail with
      | nil => rfl
      | cons c tail =>
          obtain ⟨noBreak, outside⟩ := stops c rfl
          have noBlank (blank : Char) (isBlank : isGap blank = true) :
              ¬ (known.all (column < ·) = true ∧ c = blank) := by
            rintro ⟨inside, rfl⟩
            rcases outside with rfl | noGap
            · simp at inside
            · rw [noGap] at isBlank
              exact Bool.noConfusion isBlank
          rw [blockBreaks?]
          refine (if_neg (noBlank ' ' rfl)).trans ((if_neg (noBlank '\t' rfl)).trans ?_)
          exact if_neg (Bool.eq_false_iff.1 noBreak)
  | succ width ih =>
      obtain ⟨bound, rfl⟩ : ∃ b, bound = b + 1 := ⟨bound - 1, by omega⟩
      have inside : known.all (column < ·) = true := by
        cases known with
        | none => rfl
        | some i =>
            have := limit i rfl
            simp
            omega
      have step : blockBreaks? known (s.moved (margin (width + 1) ++ tail) line column column) found
          deepest (bound + 1) =
          blockBreaks? known (s.moved (margin width ++ tail) line (column + 1) (column + 1)) found
            (max deepest (column + 1)) bound := by
        show blockBreaks? known (s.moved (' ' :: (margin width ++ tail)) line column column) found
          deepest (bound + 1) = _
        rw [blockBreaks?]
        exact if_pos ⟨inside, rfl⟩
      have swap : column + 1 + width = column + (width + 1) := by omega
      rw [step, ih (by rwa [swap]) (by rwa [swap]) (by omega), swap]
      have deeper : max (max deepest (column + 1)) (column + (width + 1)) =
          max deepest (column + (width + 1)) := by omega
      rw [deeper]

/-- Empty lines, and the margin of the next line. -/
theorem blockBreaks?_breaks {breaks found : List Char} {deepest bound : Nat}
    (kept : ∀ c ∈ breaks, isKept c = true) (limit : ∀ i ∈ known, width ≤ i)
    (stops : ∀ c ∈ tail.head?, isBreak c = false ∧ (known = some width ∨ isGap c = false))
    (enough : (breaks ++ margin width).length < bound) :
    blockBreaks? known (s.moved (breaks ++ (margin width ++ tail)) line 0 0) found deepest bound =
      some (found ++ breaks, max deepest width,
        s.moved tail (line + breaks.length) width width) := by
  induction breaks generalizing found line bound with
  | nil =>
      have margins := @blockBreaks?_margin s known tail line 0 width found deepest bound
      rw [Nat.zero_add] at margins
      rw [List.append_nil]
      exact margins limit stops (by simpa using enough)
  | cons b breaks ih =>
      obtain ⟨bound, rfl⟩ : ∃ b, bound = b + 1 := ⟨bound - 1, by omega⟩
      obtain ⟨first, further⟩ := List.forall_mem_cons.1 kept
      have noBlank (blank : Char) (isBlank : isGap blank = true) :
          ¬ (known.all (0 < ·) = true ∧ b = blank) := by
        rintro ⟨-, rfl⟩
        rw [isGap_of_isBreak (isBreak_of_isKept first)] at isBlank
        exact Bool.noConfusion isBlank
      have step : blockBreaks? known (s.moved (b :: (breaks ++ (margin width ++ tail))) line 0 0)
          found deepest (bound + 1) =
          blockBreaks? known (s.moved (breaks ++ (margin width ++ tail)) (line + 1) 0 0)
            (found ++ [b]) deepest bound := by
        rw [blockBreaks?]
        refine (if_neg (noBlank ' ' rfl)).trans ((if_neg (noBlank '\t' rfl)).trans ?_)
        refine (if_pos (isBreak_of_isKept first)).trans ?_
        rw [newLine_moved, rest_moved, takeBreak_of_isKept first]
      rw [List.cons_append, step, ih further (by simp at enough ⊢; omega), List.append_assoc,
        List.length_cons, Nat.add_assoc, Nat.add_comm 1]
      rfl

/-! ### Lines -/

/-- What is kept of the last break of a text and of those after it. -/
def Chomp.keeps (chomp : Chomp) (lead breaks : List Char) : List Char :=
  match chomp with
  | .strip => []
  | .clip => lead
  | .keep => lead ++ breaks

/-- A literal block ends before the first line that is not deep enough. -/
theorem blockLines?_end {read lead breaks : List Char} {gap : Bool} {indent offset bound : Nat}
    (left : column ≠ indent) :
    blockLines? true chomp indent (s.moved tail line column offset) read lead breaks gap
        (bound + 1) =
      some ((s.moved tail line column offset).emit
        (.scalar (String.ofList (read ++ chomp.keeps lead breaks)) false)) := by
  have ended : ¬ (column = indent ∧ (!tail.isEmpty) = true) := fun h => left h.1
  unfold blockLines?
  refine (if_neg ended).trans ?_
  cases chomp <;> rfl

/-- One line of a literal block, and the empty lines after it. -/
theorem blockLines?_line {run breaks read lead found : List Char} {b : Char} {gap : Bool}
    {indent offset bound : Nat} (noBreak : ∀ c ∈ run, isBreak c = false)
    (kept : ∀ c ∈ b :: breaks, isKept c = true) (shallow : width ≤ indent)
    (stops : ∀ c ∈ tail.head?, isBreak c = false ∧ (indent = width ∨ isGap c = false)) :
    ∃ gap', blockLines? true chomp indent
        (s.moved (run ++ b :: (breaks ++ (margin width ++ tail))) line indent offset)
        read lead found gap (bound + 1) =
      blockLines? true chomp indent (s.moved tail (line + (b :: breaks).length) width width)
        (read ++ lead ++ found ++ run) [b] breaks gap' bound := by
  refine ⟨(run ++ b :: (breaks ++ (margin width ++ tail))).head?.any isGap, ?_⟩
  obtain ⟨first, further⟩ := List.forall_mem_cons.1 kept
  have goesOn : indent = indent ∧
      (!(run ++ b :: (breaks ++ (margin width ++ tail))).isEmpty) = true := by
    simp
  have taken : (run ++ b :: (breaks ++ (margin width ++ tail))).takeWhile (!isBreak ·) = run := by
    rw [List.takeWhile_append_of_pos (fun c mem => by simp [noBreak c mem]),
      List.takeWhile_cons_of_neg (by simp [isBreak_of_isKept first]), List.append_nil]
  have scanned : (s.moved (run ++ b :: (breaks ++ (margin width ++ tail))) line indent
      offset).advance run.length =
      s.moved (b :: (breaks ++ (margin width ++ tail))) line (indent + run.length)
        (offset + byteLength run) := by
    rw [advance_moved, List.drop_left, List.take_left]
  have found' := @blockBreaks?_breaks s (some indent) tail (line + 1) width breaks [] 0
    (2 * (breaks ++ (margin width ++ tail)).length + 2) further (by simpa using shallow)
    (by simpa using stops) (by simp; omega)
  conv_lhs => unfold blockLines?
  refine (if_pos goesOn).trans ?_
  simp only [rest_moved, taken, scanned, List.isEmpty_cons, newLine_moved,
    takeBreak_of_isKept first, Bool.false_eq_true, if_false, Bool.not_true, false_and]
  rw [found', List.length_cons, Nat.add_assoc, Nat.add_comm 1]
  rfl

/-- The last line of a literal block. -/
theorem blockLines?_lastLine {run breaks read lead found : List Char} {b : Char} {gap : Bool}
    {indent offset bound : Nat} (noBreak : ∀ c ∈ run, isBreak c = false)
    (kept : ∀ c ∈ b :: breaks, isKept c = true) (shallow : width < indent)
    (content : StartsContent tail) :
    blockLines? true chomp indent
        (s.moved (run ++ b :: (breaks ++ (margin width ++ tail))) line indent offset)
        read lead found gap (bound + 2) =
      some ((s.moved tail (line + (b :: breaks).length) width width).emit (.scalar
        (String.ofList (read ++ (lead ++ (found ++ (run ++ chomp.keeps [b] breaks))))) false)) := by
  obtain ⟨gap', goesOn⟩ := @blockLines?_line chomp s tail line width run breaks read lead found b
    gap indent offset (bound + 1) noBreak kept (Nat.le_of_lt shallow)
    fun c first => ⟨(content.stops c first).2, .inr (content.stops c first).1⟩
  rw [goesOn, blockLines?_end (Nat.ne_of_lt shallow)]
  simp only [List.append_assoc]

/-- What ends the last line, and what is kept of it. -/
theorem exists_lineEnd {breaks : List Char} (kept : ∀ c ∈ breaks, isKept c = true) :
    ∃ b further, breaks ++ lineEnd (chompOf breaks) = b :: further ∧
      (∀ c ∈ b :: further, isKept c = true) ∧ (chompOf breaks).keeps [b] further = breaks := by
  cases breaks with
  | nil => exact ⟨'\n', [], rfl, List.forall_mem_singleton.2 rfl, rfl⟩
  | cons b breaks =>
      cases breaks with
      | nil => exact ⟨b, [], rfl, kept, rfl⟩
      | cons d breaks => exact ⟨b, d :: breaks, by simp [chompOf, lineEnd], kept, rfl⟩

/-- The lines of a literal block, the first of which is under way. -/
theorem blockLines?_lines {indent : Nat} (lines : AreLines chomp body) (shallow : width < indent)
    (content : StartsContent tail) {read lead found : List Char} {gap : Bool} {offset bound : Nat}
    (enough : (indentLines indent false body ++ (lineEnd chomp ++ (margin width ++ tail))).length <
      bound) :
    ∃ line', line < line' ∧ blockLines? true chomp indent
        (s.moved (indentLines indent false body ++ (lineEnd chomp ++ (margin width ++ tail))) line
          indent offset) read lead found gap bound =
      some ((s.moved tail line' width width).emit
        (.scalar (String.ofList (read ++ (lead ++ (found ++ body)))) false)) := by
  induction lines generalizing read lead found gap line offset bound with
  | @last run breaks nonempty noBreak kept =>
      obtain ⟨b, further, split, areKept, keepsAll⟩ := exists_lineEnd kept
      have written : indentLines indent false (run ++ breaks) ++
          (lineEnd (chompOf breaks) ++ (margin width ++ tail)) =
          run ++ b :: (further ++ (margin width ++ tail)) := by
        rw [indentLines_line noBreak, indentLines_lastBreaks kept, List.append_assoc,
          ← List.append_assoc breaks, split, List.cons_append]
      rw [written] at enough ⊢
      obtain ⟨bound, rfl⟩ : ∃ b, bound = b + 2 := by
        refine ⟨bound - 2, ?_⟩
        have := List.length_pos_iff.2 nonempty
        rw [List.length_append, List.length_cons] at enough
        omega
      refine ⟨_, Nat.lt_add_of_pos_right (Nat.succ_pos further.length), ?_⟩
      rw [blockLines?_lastLine noBreak areKept shallow content, keepsAll]
      rfl
  | @more chomp run breaks body b nonempty noBreak kept lines ih =>
      obtain ⟨first, further⟩ := List.forall_mem_cons.1 kept
      have written : indentLines indent false (run ++ b :: (breaks ++ body)) =
          run ++ b :: (breaks ++ (margin indent ++ indentLines indent false body)) := by
        rw [indentLines_line noBreak, indentLines_break first, indentLines_breaks further,
          lines.indentLines_fresh]
      have assoc : run ++ b :: (breaks ++ (margin indent ++ indentLines indent false body)) ++
          (lineEnd chomp ++ (margin width ++ tail)) = run ++ b :: (breaks ++ (margin indent ++
            (indentLines indent false body ++ (lineEnd chomp ++ (margin width ++ tail))))) := by
        simp
      rw [written, assoc] at enough ⊢
      obtain ⟨bound, rfl⟩ : ∃ b, bound = b + 1 := ⟨bound - 1, by omega⟩
      have starts : ∀ c ∈ (indentLines indent false body ++
          (lineEnd chomp ++ (margin width ++ tail))).head?,
          isBreak c = false ∧ (indent = indent ∨ isGap c = false) := by
        obtain ⟨c, rest, split, noBreak⟩ := lines.exists_indentLines indent
        rw [split]
        rintro d mem
        obtain rfl := Option.some.inj mem
        exact ⟨noBreak, .inl rfl⟩
      obtain ⟨gap', goesOn⟩ := @blockLines?_line chomp s _ line indent run breaks read lead found b
        gap indent offset bound noBreak kept (Nat.le_refl _) starts
      obtain ⟨line', later, rest⟩ := @ih (line + (b :: breaks).length)
        (read ++ lead ++ found ++ run) [b] breaks gap' indent bound (by simp at enough ⊢; omega)
      refine ⟨line', by simp at later; omega, ?_⟩
      rw [goesOn, rest]
      simp

/-! ### Blocks -/

theorem blockHeader?_marks (deep : Bool) (chomp : Chomp) (rest : List Char) :
    blockHeader? ((if deep then ['2'] else []) ++ (chompMark chomp ++ '\n' :: rest)) =
      some (chomp, if deep then some 2 else none,
        ((if deep then ['2'] else []) ++ chompMark chomp).length) := by
  cases deep <;> cases chomp <;> rfl

/-- The header of a literal block, up to the first line of the text. -/
theorem block?_header {emitted : List Token} {outer : List Int} {rest : List Char}
    {start offset : Nat} (deep : Bool) (chomp : Chomp) :
    block? true ((inBlock emitted column outer true).moved ((if deep then ['2'] else []) ++
        (chompMark chomp ++ '\n' :: rest)) line start offset) =
      (blockBreaks? (if deep then some (column + 2) else none)
        ((inBlock emitted column outer true).moved rest (line + 1) 0 0) [] 0
          (2 * rest.length + 2)).bind fun found =>
        blockLines? true chomp ((if deep then some (column + 2) else none).getD
            (max (max found.2.1 (found.2.2.indent + 1).toNat) 1))
          found.2.2 [] [] found.1 false (found.2.2.rest.length + 2) := by
  have header := blockHeader?_marks deep chomp rest
  rw [← List.append_assoc] at header ⊢
  generalize (if deep then ['2'] else []) ++ chompMark chomp = marks at header ⊢
  have passed : ((inBlock emitted column outer true).moved (marks ++ '\n' :: rest) line start
      offset).advance marks.length = (inBlock emitted column outer true).moved ('\n' :: rest) line
        (start + marks.length) (offset + byteLength marks) := by
    rw [advance_moved, List.drop_left, List.take_left]
  have known : (if deep then some 2 else none : Option Nat).map (fun n =>
      if 0 ≤ (column : Int) then (column : Int).toNat + n else n) =
      if deep then some (column + 2) else none := by
    cases deep with
    | true => simp
    | false => rfl
  unfold block?
  rw [rest_moved, header]
  simp only [Option.bind_eq_bind, Option.bind_some, passed]
  rw [← known]
  rfl

end Lexer

/-- What is written after the last character of a literal block. -/
def closingBreak (cs : List Char) : List Char := if cs.getLast?.any isBreak then [] else ['\n']

theorem AreLines.closingBreak_eq (lines : AreLines chomp body) (before : List Char) :
    closingBreak (before ++ body) = lineEnd chomp := by
  have last {cs : List Char} {c : Char} (mem : c ∈ cs.getLast?) :
      closingBreak cs = if isBreak c then [] else ['\n'] := by
    unfold closingBreak
    rw [Option.mem_def.1 mem, Option.any_some]
  induction lines generalizing before with
  | @last line breaks nonempty noBreak kept =>
      obtain ⟨line, a, rfl⟩ := (List.eq_nil_or_concat line).resolve_left nonempty
      rcases List.eq_nil_or_concat breaks with rfl | ⟨init, d, rfl⟩
      · rw [List.append_nil, List.concat_eq_append, ← List.append_assoc,
          last List.getLast?_concat, noBreak a (by simp)]
        rfl
      · have keptAll : lineEnd (chompOf (init.concat d)) = [] := by
          cases init with
          | nil => rfl
          | cons b init => cases init <;> rfl
        rw [keptAll, List.concat_eq_append, List.concat_eq_append, ← List.append_assoc,
          ← List.append_assoc, last List.getLast?_concat, isBreak_of_isKept (kept d (by simp))]
        rfl
  | @more chomp line breaks body b nonempty noBreak kept lines ih =>
      have split : before ++ (line ++ b :: (breaks ++ body)) =
          (before ++ (line ++ b :: breaks)) ++ body := by simp
      rw [split]
      exact ih _

theorem startMark_cons (c : Char) (cs : List Char) :
    startMark (c :: cs) = if c == ' ' || isBreak c then ['2'] else [] := rfl

namespace Lexer

variable {emitted : List Token} {outer : List Int} {tail : List Char}
  {line column width start offset : Nat}

/-- A literal block of breaks only. -/
theorem block?_breaks {breaks : List Char} (nonempty : breaks ≠ [])
    (kept : ∀ c ∈ breaks, isKept c = true) (shallow : width ≤ column)
    (content : StartsContent tail) :
    ∃ line', line < line' ∧ block? true ((inBlock emitted column outer true).moved
        (literalMarks breaks ++ '\n' :: (indentLines (column + 2) true breaks ++
          (closingBreak breaks ++ (margin width ++ tail)))) line start offset) =
      some (((inBlock emitted column outer true).moved tail line' width width).emit
        (.scalar (String.ofList breaks) false)) := by
  have ends : ∀ c ∈ breaks, isBreak c = true := fun c mem => isBreak_of_isKept (kept c mem)
  have endMarks : endMark breaks.reverse = ['+'] := by
    rw [← List.append_nil breaks.reverse]
    exact endMark_of_breaks (by simpa using nonempty) (by simpa using ends) [] (by simp)
  have startMarks : startMark breaks = ['2'] := by
    obtain ⟨c, breaks, rfl⟩ := List.exists_cons_of_ne_nil nonempty
    simp [startMark_cons, ends c List.mem_cons_self]
  have closed : closingBreak breaks = [] := by
    obtain ⟨init, d, rfl⟩ := (List.eq_nil_or_concat breaks).resolve_left nonempty
    simp [closingBreak, ends d (by simp)]
  -- the margin of what follows is skipped with the breaks, and is not deep enough for a line
  have found := @blockBreaks?_breaks (inBlock emitted column outer true) (some (column + 2)) tail
    (line + 1) width breaks [] 0 (2 * (breaks ++ (margin width ++ tail)).length + 2) kept
    (by simp; omega) (fun c first => ⟨(content.stops c first).2, .inr (content.stops c first).1⟩)
    (by simp; omega)
  refine ⟨line + 1 + breaks.length, by omega, ?_⟩
  rw [literalMarks_eq, startMarks, endMarks, closed, indentLines_breaks_nil kept, List.nil_append,
    List.append_assoc]
  refine (block?_header true .keep).trans ?_
  simp only [if_true, found, Option.bind_some, List.nil_append]
  rw [blockLines?_end (by simp; omega)]
  rfl

/-- A literal block with lines that are not empty. -/
theorem block?_lines {breaks body : List Char} (kept : ∀ c ∈ breaks, isKept c = true)
    (lines : AreLines chomp body) (plain : ∀ c ∈ body, isPlainChar c = true)
    (shallow : width ≤ column) (content : StartsContent tail) :
    ∃ line', line < line' ∧ block? true ((inBlock emitted column outer true).moved
        (literalMarks (breaks ++ body) ++ '\n' :: (indentLines (column + 2) true (breaks ++ body) ++
          (closingBreak (breaks ++ body) ++ (margin width ++ tail)))) line start offset) =
      some (((inBlock emitted column outer true).moved tail line' width width).emit
        (.scalar (String.ofList (breaks ++ body)) false)) := by
  obtain ⟨deep, marked, isDeep⟩ : ∃ deep : Bool,
      startMark (breaks ++ body) = (if deep then ['2'] else []) ∧
      (deep = true ∨ body.head? ≠ some ' ') := by
    refine ⟨_, rfl, ?_⟩
    cases breaks with
    | nil =>
        by_cases space : body.head? = some ' '
        · exact .inl (by simp [space])
        · exact .inr space
    | cons b breaks => exact .inl (by simp [isBreak_of_isKept (kept b List.mem_cons_self)])
  have written : indentLines (column + 2) true (breaks ++ body) ++
      (closingBreak (breaks ++ body) ++ (margin width ++ tail)) =
      breaks ++ (margin (column + 2) ++ (indentLines (column + 2) false body ++
        (lineEnd chomp ++ (margin width ++ tail)))) := by
    rw [indentLines_breaks kept, lines.indentLines_fresh, lines.closingBreak_eq]
    simp
  -- an unmarked text starts with no blank, so the reader sees its depth at the first line
  have stops : ∀ d ∈ (indentLines (column + 2) false body ++
      (lineEnd chomp ++ (margin width ++ tail))).head?, isBreak d = false ∧
      ((if deep then some (column + 2) else none) = some (column + 2) ∨ isGap d = false) := by
    obtain ⟨c, first, noBreak⟩ := lines.head
    obtain ⟨rest, rfl⟩ := List.head?_eq_some_iff.1 first
    rintro d mem
    obtain rfl : c = d := by simpa [indentLines, noBreak] using mem
    refine ⟨noBreak, isDeep.imp (fun deep => by rw [if_pos deep]) fun noSpace => ?_⟩
    rw [isGap_eq_of_isPlainChar (plain c List.mem_cons_self), beq_eq_false_iff_ne]
    rintro rfl
    exact noSpace rfl
  have found := @blockBreaks?_breaks (inBlock emitted column outer true)
    (if deep then some (column + 2) else none)
    (indentLines (column + 2) false body ++ (lineEnd chomp ++ (margin width ++ tail)))
    (line + 1) (column + 2) breaks [] 0
    (2 * (breaks ++ (margin (column + 2) ++ (indentLines (column + 2) false body ++
        (lineEnd chomp ++ (margin width ++ tail))))).length + 2) kept
    (by cases deep <;> simp) stops (by simp; omega)
  obtain ⟨line', later, read⟩ := @blockLines?_lines chomp body
    (inBlock emitted column outer true) tail (line + 1 + breaks.length) width (column + 2) lines
    (by omega) content [] [] breaks false (column + 2)
    ((indentLines (column + 2) false body ++ (lineEnd chomp ++ (margin width ++ tail))).length + 2)
    (by omega)
  refine ⟨line', by omega, ?_⟩
  rw [literalMarks_eq, marked, lines.endMark_eq, written, List.append_assoc]
  refine (block?_header deep chomp).trans ?_
  have indents : (if deep then some (column + 2) else none).getD
      (max (max (max 0 (column + 2)) ((column : Int) + 1).toNat) 1) = column + 2 := by
    cases deep with
    | true => rfl
    | false =>
        show max (max (max 0 (column + 2)) ((column : Int) + 1).toNat) 1 = column + 2
        omega
  rw [found, Option.bind_some]
  show blockLines? true chomp
    (Option.getD _ (max (max (max 0 (column + 2)) ((column : Int) + 1).toNat) 1)) _ _ _ _ _ _ = _
  rw [indents]
  exact read

/-- A text in a literal block, after the mark that opens it. -/
theorem block?_literal {cs : List Char} (nonempty : cs ≠ [])
    (plain : ∀ c ∈ cs, isPlainChar c = true) (shallow : width ≤ column)
    (content : StartsContent tail) :
    ∃ line', line < line' ∧ block? true ((inBlock emitted column outer true).moved
        (literalMarks cs ++ '\n' :: (indentLines (column + 2) true cs ++
          (closingBreak cs ++ (margin width ++ tail)))) line start offset) =
      some (((inBlock emitted column outer true).moved tail line' width width).emit
        (.scalar (String.ofList cs) false)) := by
  obtain ⟨breaks, body, rfl, kept, rfl | ⟨chomp, lines⟩⟩ :=
    exists_areLines cs fun c mem ends => isKept_of_isPlainChar (plain c mem) ends
  · rw [List.append_nil] at nonempty ⊢
    exact block?_breaks nonempty kept shallow content
  · exact block?_lines kept lines (fun c mem => plain c (List.mem_append_right _ mem)) shallow
      content

theorem token?_literal {s : Lexer} {cs : List Char} {bound : Nat} (inside : 0 < s.column)
    (pending : s.pending = none) (blocks : s.outerPending = []) :
    s.token? bound '|' cs = block? true { s.advance 1 with keyAllowed := true } := by
  simp [token?, Nat.ne_of_gt inside, dropKey?, pending, inFlow, blocks]

end Lexer

theorem mem_indentLines {indent : Nat} {fresh : Bool} {cs : List Char} {d : Char}
    (mem : d ∈ indentLines indent fresh cs) : d = ' ' ∨ d ∈ cs := by
  induction cs generalizing fresh with
  | nil => simp [indentLines] at mem
  | cons c cs ih =>
      have behind (fresh : Bool) (mem : d ∈ c :: indentLines indent fresh cs) :
          d = ' ' ∨ d ∈ c :: cs := by
        rcases List.mem_cons.1 mem with rfl | mem
        · exact .inr List.mem_cons_self
        · exact (ih mem).imp_right (List.mem_cons_of_mem c)
      rw [indentLines] at mem
      split_ifs at mem
      · exact behind true mem
      · rcases List.mem_append.1 mem with mem | mem
        · exact .inl (List.eq_of_mem_replicate mem)
        · exact behind false mem
      · exact behind false mem

theorem isAllowed_literalMarks {cs : List Char} {d : Char} (mem : d ∈ literalMarks cs) :
    isAllowed d = true := by
  have allowed : ['2', '-', '+'].all isAllowed = true := rfl
  refine List.all_eq_true.1 allowed d ?_
  rw [literalMarks_eq, List.mem_append] at mem
  rcases mem with mem | mem
  · unfold startMark at mem
    split_ifs at mem <;> simp_all
  · have ends : ∀ ds, endMark ds = ['-'] ∨ endMark ds = ['+'] ∨ endMark ds = [] := by
      intro ds
      fun_cases endMark ds <;> simp [*]
    rcases ends cs.reverse with same | same | same <;> simp_all

/-- A text in a literal block. -/
theorem Lexes.literal {cs : List Char} (nonempty : cs ≠ [])
    (plain : ∀ c ∈ cs, isPlainChar c = true) (column : Nat) :
    Lexes column
      (' ' :: '|' :: (literalMarks cs ++ '\n' ::
        (indentLines (column + 2) true cs ++ closingBreak cs)))
      [.scalar (String.ofList cs) false] := by
  refine Lexes.scan ?_ (startsContent_cons (by decide)) ?_
  · intro d mem
    simp only [List.mem_cons, List.mem_append] at mem
    rcases mem with rfl | mem | rfl | mem | mem
    · decide
    · exact isAllowed_literalMarks mem
    · decide
    · rcases mem_indentLines mem with rfl | mem
      · decide
      · exact isAllowed_of_isPlainChar (plain d mem)
    · unfold closingBreak at mem
      split_ifs at mem
      · simp at mem
      · obtain rfl := List.mem_singleton.1 mem
        decide
  intro emitted outer keyAllowed tail line start offset width bound ts deeper shallow content enough
    next
  obtain ⟨line', later, scanned⟩ := @Lexer.block?_literal emitted outer tail line column width
    (start + 1) (offset + 1) cs nonempty plain shallow content
  have assoc : literalMarks cs ++ '\n' :: (indentLines (column + 2) true cs ++ closingBreak cs) ++
      (margin width ++ tail) = literalMarks cs ++ '\n' :: (indentLines (column + 2) true cs ++
        (closingBreak cs ++ (margin width ++ tail))) := by
    simp
  rw [assoc, Lexer.token?_literal (by simp; omega) rfl rfl]
  refine ⟨_, scanned, by simp [Lexer.emit]; omega, ?_⟩
  exact Lexer.Yields.of_content ⟨rfl, rfl, by simp [Lexer.emit, Lexer.inBlock]⟩ rfl content rfl
    (next _)

end MixinIndex.Yaml
