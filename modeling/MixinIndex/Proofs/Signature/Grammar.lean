import Mathlib.Data.List.TakeWhile
import MixinIndex.Proofs.Outcome
import MixinIndex.Signature.Scanner

/-!
# The grammar of signatures

Signatures and method descriptors as sets of texts, described without a scanner, and the scanner
accepts these texts and no others.

## Main definitions

* `Signature.IsBody`: the text between the leading letter and the semicolon of a class signature
* `Signature.IsElement`, `Signature.IsSignature`: the texts that are signatures
* `Signature.IsParameter`: a signature other than void
* `Descriptor.IsWellFormed`: parameters and result are signatures, and no parameter is void

## Main statements

* `Signature.isBody_cons`: the depth at which a body goes on
* `Signature.scan_eq_ok_iff`: the scanner reads a signature at the start of a text, and all of it
* `Descriptor.scanParameters_eq_ok_iff`: parameters are read up to the closing parenthesis
* `Descriptor.parse_eq_ok_iff`: the reader of descriptors inverts their written form

## Design notes

A body is described by counts of `<` and `>` in its prefixes.  The number of lists that are open
when it starts is a parameter, so that a body without its first character is a body again.  The
equivalences speak of all texts that start with a signature, which makes the scanned one unique.
-/

namespace MixinIndex

open Text

namespace Signature

/-! ### Bodies of class signatures -/

/-- A text that closes `depth` type argument lists and those that it opens. -/
structure IsBody (depth : Nat) (body : List Char) : Prop where
  /-- Parentheses belong to descriptors. -/
  noParenthesis : '(' ∉ body ∧ ')' ∉ body
  /-- At the end all lists are closed. -/
  closed : body.count '>' = depth + body.count '<'
  /-- No prefix closes more lists than have been opened. -/
  balanced : ∀ before, before <+: body → before.count '>' ≤ depth + before.count '<'
  /-- Where a semicolon stands, a list is open. -/
  inside : ∀ before, before ++ [';'] <+: body → before.count '>' < depth + before.count '<'

/-- The number of open lists after a character, if the character may stand there. -/
def depthAfter? (depth : Nat) (c : Char) : Option Nat :=
  if c = '<' then some (depth + 1)
  else if c = '>' then if depth = 0 then none else some (depth - 1)
  else if c = '(' ∨ c = ')' then none
  else if c = ';' ∧ depth = 0 then none
  else some depth

/-- What a character does to the depth, it does to the counts. -/
theorem count_of_depthAfter? {depth next : Nat} {c : Char} (h : depthAfter? depth c = some next)
    (cs : List Char) :
    next + cs.count '<' + (c :: cs).count '>' = depth + (c :: cs).count '<' + cs.count '>' := by
  simp only [depthAfter?] at h
  split_ifs at h with opens closes zero <;> cases h
  · subst opens
    simp
    omega
  · subst closes
    simp
    omega
  all_goals
    rw [List.count_cons_of_ne opens, List.count_cons_of_ne closes]

/-- A character that leaves a depth may stand where it does. -/
theorem stands_of_depthAfter? {depth next : Nat} {c : Char} (h : depthAfter? depth c = some next) :
    c ≠ '(' ∧ c ≠ ')' ∧ (c = ';' → 0 < depth) := by
  simp only [depthAfter?] at h
  grind

theorem isBody_nil {depth : Nat} : IsBody depth [] ↔ depth = 0 := by
  constructor
  · intro body
    simpa using body.closed.symm
  · rintro rfl
    exact ⟨by simp, by simp, by simp, by simp⟩

/-- The depth is defined after a character with which a body can start. -/
theorem IsBody.depthAfter? {depth : Nat} {c : Char} {cs : List Char} (h : IsBody depth (c :: cs)) :
    ∃ next, depthAfter? depth c = some next := by
  have noParenthesis : ¬ (c = '(' ∨ c = ')') := by
    rintro (rfl | rfl)
    · exact h.noParenthesis.1 List.mem_cons_self
    · exact h.noParenthesis.2 List.mem_cons_self
  have openAtClose : c = '>' → depth ≠ 0 := by
    rintro rfl rfl
    simpa using h.balanced ['>'] (by simp)
  have openAtSemicolon : ¬ (c = ';' ∧ depth = 0) := by
    rintro ⟨rfl, rfl⟩
    simpa using h.inside [] (by simp)
  simp only [Signature.depthAfter?, if_neg noParenthesis, if_neg openAtSemicolon]
  split_ifs with opens closes zero
  · exact ⟨_, rfl⟩
  · exact absurd zero (openAtClose closes)
  · exact ⟨_, rfl⟩
  · exact ⟨_, rfl⟩

/-- A body without its first character is a body at the depth after that character. -/
theorem isBody_cons {depth : Nat} {c : Char} {cs : List Char} :
    IsBody depth (c :: cs) ↔ ∃ next, depthAfter? depth c = some next ∧ IsBody next cs := by
  -- A prefix gains or loses its first character, and `count` carries the bound on it over.
  constructor
  · intro body
    obtain ⟨next, step⟩ := body.depthAfter?
    have count := count_of_depthAfter? step
    refine ⟨next, step, ?_, ?_, ?_, ?_⟩
    · exact ⟨fun mem => body.noParenthesis.1 (List.mem_cons_of_mem c mem),
        fun mem => body.noParenthesis.2 (List.mem_cons_of_mem c mem)⟩
    · have closed := body.closed
      have := count cs
      omega
    · intro before isPrefix
      have balanced := body.balanced (c :: before) (List.cons_prefix_cons.2 ⟨rfl, isPrefix⟩)
      have := count before
      omega
    · intro before isPrefix
      have inside := body.inside (c :: before) (List.cons_prefix_cons.2 ⟨rfl, isPrefix⟩)
      have := count before
      omega
  · rintro ⟨next, step, body⟩
    have count := count_of_depthAfter? step
    obtain ⟨notOpening, notClosing, semicolon⟩ := stands_of_depthAfter? step
    refine ⟨?_, ?_, ?_, ?_⟩
    · exact ⟨List.not_mem_cons_of_ne_of_not_mem notOpening.symm body.noParenthesis.1,
        List.not_mem_cons_of_ne_of_not_mem notClosing.symm body.noParenthesis.2⟩
    · have closed := body.closed
      have := count cs
      omega
    · intro before isPrefix
      rcases List.prefix_cons_iff.1 isPrefix with rfl | ⟨before, rfl, within⟩
      · simp
      · have balanced := body.balanced before within
        have := count before
        omega
    · intro before isPrefix
      cases before with
      | nil =>
          obtain ⟨same, -⟩ := List.cons_prefix_cons.1 isPrefix
          simpa using semicolon same.symm
      | cons d before =>
          obtain ⟨rfl, within⟩ := List.cons_prefix_cons.1 isPrefix
          have inside := body.inside before within
          have := count before
          omega

/-- What the scanner does with a character: it stops at the semicolon outside of all lists, and
goes on at the depth after any other character. -/
theorem scanBody_cons_eq_ok_iff {depth offset : Nat} {fresh : Bool} {c : Char}
    {cs lexeme rest : List Char} :
    scanBody depth fresh offset (c :: cs) = .ok (lexeme, rest) ↔
      (c = ';' ∧ depth = 0 ∧ fresh = false ∧ lexeme = [';'] ∧ rest = cs) ∨
        ∃ next tail, depthAfter? depth c = some next ∧ lexeme = c :: tail ∧
          scanBody next false (offset + c.utf8Size) cs = .ok (tail, rest) := by
  -- Both sides branch on the character in the same way.
  simp only [scanBody, depthAfter?]
  split_ifs <;> simp [Except.map_eq_ok_iff] <;> grind

/-- The scanner reads a body and its semicolon, whatever follows. -/
theorem scanBody_eq_ok_iff {depth offset : Nat} {fresh : Bool} {cs lexeme rest : List Char} :
    scanBody depth fresh offset cs = .ok (lexeme, rest) ↔
      ∃ body, IsBody depth body ∧ (fresh = true → body ≠ []) ∧
        lexeme = body ++ [';'] ∧ cs = lexeme ++ rest := by
  induction cs generalizing depth fresh offset lexeme with
  | nil =>
      simp only [scanBody, reduceCtorEq, false_iff]
      rintro ⟨body, -, -, rfl, split⟩
      simp at split
  | cons c cs ih =>
      rw [scanBody_cons_eq_ok_iff]
      constructor
      · rintro (⟨rfl, rfl, rfl, rfl, rfl⟩ | ⟨next, tail, step, rfl, scanned⟩)
        · exact ⟨[], isBody_nil.2 rfl, by simp, rfl, rfl⟩
        · obtain ⟨body, isBody, -, rfl, rfl⟩ := ih.1 scanned
          exact ⟨c :: body, isBody_cons.2 ⟨next, step, isBody⟩, by simp, rfl, rfl⟩
      · rintro ⟨body, isBody, started, rfl, split⟩
        cases body with
        | nil =>
            obtain ⟨rfl, rfl⟩ := List.cons.inj split
            exact Or.inl ⟨rfl, isBody_nil.1 isBody, by simpa using started, rfl, rfl⟩
        | cons d body =>
            obtain ⟨rfl, rfl⟩ := List.cons.inj split
            obtain ⟨next, step, isBody⟩ := isBody_cons.1 isBody
            exact Or.inr ⟨next, _, step, rfl, ih.2 ⟨body, isBody, by simp, rfl, rfl⟩⟩

/-! ### Signatures -/

/-- A signature that is neither void nor an array. -/
inductive IsElement : List Char → Prop
  | base {c : Char} (isLetter : c ∈ baseLetters) : IsElement [c]
  | reference {c : Char} {body : List Char} (isLead : c = 'L' ∨ c = 'Q') (nonempty : body ≠ [])
      (isBody : IsBody 0 body) : IsElement (c :: (body ++ [';']))
  | typeVariable {name : List Char} (nonempty : name ≠ [])
      (plain : ∀ c ∈ name, c ∉ [';', '<', '>', '(', ')']) : IsElement ('T' :: (name ++ [';']))

/-- A text that is a signature. -/
inductive IsSignature : List Char → Prop
  | void : IsSignature ['V']
  | array (dims : Nat) {element : List Char} (isElement : IsElement element) :
      IsSignature (List.replicate dims '[' ++ element)

/-- The scanner reads the name of a type variable and its semicolon, whatever follows. -/
theorem scanVariable_eq_ok_iff {cs lexeme rest : List Char} :
    scanVariable cs = .ok (lexeme, rest) ↔
      ∃ name, name ≠ [] ∧ (∀ c ∈ name, c ∉ [';', '<', '>', '(', ')']) ∧
        lexeme = name ++ [';'] ∧ cs = lexeme ++ rest := by
  constructor
  · intro scanned
    unfold scanVariable at scanned
    split at scanned
    · cases scanned
    · rename_i name after found
      obtain ⟨rfl, unterminated⟩ := splitFirst?_eq_some.1 found
      split_ifs at scanned with empty malformed
      cases scanned
      refine ⟨name, empty, fun c mem => ?_, rfl, by simp⟩
      have notBracket : c ∉ ['<', '>', '(', ')'] := by
        simp only [List.any_eq_true, not_exists, not_and] at malformed
        simpa using malformed c mem
      have notSemicolon : c ≠ ';' := by
        rintro rfl
        exact unterminated mem
      simpa [notSemicolon] using notBracket
  · rintro ⟨name, nonempty, plain, rfl, rfl⟩
    have unterminated : ';' ∉ name := by
      intro mem
      exact plain ';' mem (by simp)
    have found : splitFirst? ';' ((name ++ [';']) ++ rest) = some (name, rest) :=
      splitFirst?_eq_some.2 ⟨by simp, unterminated⟩
    have wellFormed : ¬ name.any (['<', '>', '(', ')'].contains ·) = true := by
      simp only [List.any_eq_true, not_exists, not_and]
      intro c mem
      have := plain c mem
      simp_all
    simp only [scanVariable, found, if_neg nonempty, if_neg wellFormed]

/-- An element is read, or void where there is no array. -/
theorem scanElement_eq_ok_iff {isArray : Bool} {offset : Nat} {cs lexeme rest : List Char} :
    scanElement isArray offset cs = .ok (lexeme, rest) ↔
      (IsElement lexeme ∨ isArray = false ∧ lexeme = ['V']) ∧ cs = lexeme ++ rest := by
  constructor
  · intro scanned
    cases cs with
    | nil => cases scanned
    | cons c cs =>
        simp only [scanElement] at scanned
        split_ifs at scanned with letter void array reference isVariable
        · cases scanned
          exact ⟨.inl (.base letter), rfl⟩
        · cases scanned
          exact ⟨.inr ⟨by simpa using array, by rw [void]⟩, by rfl⟩
        · obtain ⟨⟨tail, after⟩, scanned, same⟩ := Except.map_eq_ok_iff.1 scanned
          obtain ⟨body, isBody, nonempty, rfl, rfl⟩ := scanBody_eq_ok_iff.1 scanned
          cases same
          exact ⟨.inl (.reference reference (nonempty rfl) isBody), rfl⟩
        · obtain ⟨⟨tail, after⟩, scanned, same⟩ := Except.map_eq_ok_iff.1 scanned
          obtain ⟨name, nonempty, plain, rfl, rfl⟩ := scanVariable_eq_ok_iff.1 scanned
          cases same
          subst isVariable
          exact ⟨.inl (.typeVariable nonempty plain), rfl⟩
  · rintro ⟨isElement | ⟨rfl, rfl⟩, rfl⟩
    · cases isElement with
      | base letter => simp [scanElement, letter]
      | @reference c body lead nonempty isBody =>
          have scanned : scanBody 0 true (offset + 1) (body ++ [';'] ++ rest) =
              .ok (body ++ [';'], rest) :=
            scanBody_eq_ok_iff.2 ⟨body, isBody, fun _ => nonempty, rfl, rfl⟩
          have notLetter : c ∉ baseLetters ∧ c ≠ 'V' := by
            rcases lead with rfl | rfl <;> decide
          simp only [List.cons_append, scanElement, if_neg notLetter.1, if_neg notLetter.2,
            if_pos lead, scanned, Except.map]
      | @typeVariable name nonempty plain =>
          have scanned : scanVariable (name ++ [';'] ++ rest) = .ok (name ++ [';'], rest) :=
            scanVariable_eq_ok_iff.2 ⟨name, nonempty, plain, rfl, rfl⟩
          have notLetter : 'T' ∉ baseLetters := by decide
          have notReference : ¬ ('T' = 'L' ∨ 'T' = 'Q') := by decide
          rw [List.cons_append, scanElement, if_neg notLetter, if_neg (by decide),
            if_neg notReference, if_pos rfl, scanned]
          rfl
    · rfl

/-- An element starts with a letter. -/
theorem IsElement.eq_cons {element : List Char} (h : IsElement element) :
    ∃ c cs, element = c :: cs ∧ c.isAlpha := by
  cases h with
  | @base c letter =>
      have letters : baseLetters.all Char.isAlpha = true := by decide
      exact ⟨c, [], rfl, List.all_eq_true.1 letters c letter⟩
  | @reference c body lead =>
      refine ⟨c, _, rfl, ?_⟩
      rcases lead with rfl | rfl <;> decide
  | typeVariable => exact ⟨'T', _, rfl, by decide⟩

/-- Dimensions end where something else starts. -/
theorem span_dimensions (dims : Nat) {cs : List Char} (stops : ∀ c ∈ cs.head?, c ≠ '[') :
    (List.replicate dims '[' ++ cs).takeWhile (· == '[') = List.replicate dims '[' ∧
      (List.replicate dims '[' ++ cs).dropWhile (· == '[') = cs := by
  apply span_append
  · simp
  · intro c head
    exact beq_eq_false_iff_ne.2 (stops c head)

/-- No dimension is left in front of an element. -/
theorem IsElement.head_ne {element : List Char} (h : IsElement element) (rest : List Char) :
    ∀ c ∈ (element ++ rest).head?, c ≠ '[' := by
  obtain ⟨c, tail, rfl, isLetter⟩ := h.eq_cons
  intro d head
  obtain rfl := Option.some.inj head
  rintro rfl
  exact absurd isLetter (by decide)

/-- The scanner reads a signature, whatever follows it, and nothing but a signature. -/
theorem scan_eq_ok_iff {offset : Nat} {cs lexeme rest : List Char} :
    scan offset cs = .ok (lexeme, rest) ↔ IsSignature lexeme ∧ cs = lexeme ++ rest := by
  constructor
  · intro scanned
    obtain ⟨⟨element, after⟩, scanned, same⟩ := Except.map_eq_ok_iff.1 scanned
    obtain ⟨kind, split⟩ := scanElement_eq_ok_iff.1 scanned
    cases same
    have dims : cs.takeWhile (· == '[') =
        List.replicate (cs.takeWhile (· == '[')).length '[' := by
      apply List.eq_replicate_of_mem
      intro c mem
      simpa using List.mem_takeWhile_imp mem
    refine ⟨?_, ?_⟩
    · rcases kind with isElement | ⟨noArray, rfl⟩
      · rw [dims]
        exact .array _ isElement
      · have none : cs.takeWhile (· == '[') = [] := by simpa using noArray
        rw [none]
        exact .void
    · rw [List.append_assoc, ← split, List.takeWhile_append_dropWhile]
  · rintro ⟨isSignature, rfl⟩
    cases isSignature with
    | void => rfl
    | @array dims element isElement =>
        obtain ⟨dimensions, element⟩ := span_dimensions dims (isElement.head_ne rest)
        rw [scan, List.append_assoc, dimensions, element]
        exact Except.map_eq_ok_iff.2 ⟨_, scanElement_eq_ok_iff.2 ⟨.inl isElement, rfl⟩, rfl⟩

/-- Reading a whole text as a signature. -/
theorem parse_eq_ok_iff {cs : List Char} {s : Signature} :
    parse cs = .ok s ↔ IsSignature cs ∧ s = ofChars cs := by
  rw [parse]
  constructor
  · intro read
    split at read
    · cases read
    · rename_i lexeme scanned
      obtain ⟨isSignature, rfl⟩ := scan_eq_ok_iff.1 scanned
      cases read
      simpa using isSignature
    · cases read
  · rintro ⟨isSignature, rfl⟩
    have scanned : scan 0 cs = .ok (cs, []) := scan_eq_ok_iff.2 ⟨isSignature, by simp⟩
    rw [scanned]

/-- A signature is accepted if its own text is read as it. -/
theorem parseText_text_eq_ok_iff {s : Signature} :
    parseText s.text = .ok s ↔ IsSignature s.chars := by
  rw [parseText, Except.mapError_eq_ok_iff, parse_eq_ok_iff]
  exact and_iff_left (ofChars_chars s).symm

theorem eq_void_iff {s : Signature} : s = void ↔ s.chars = ['V'] := by
  constructor
  · rintro rfl
    rfl
  · intro same
    rw [← ofChars_chars s, same]
    rfl

/-- A signature that a parameter may have. -/
def IsParameter (s : Signature) : Prop := IsSignature s.chars ∧ s ≠ void

end Signature

/-! ### Descriptors -/

/-- Parameters and result of a descriptor are signatures, and no parameter is void. -/
structure Descriptor.IsWellFormed (d : Descriptor) : Prop where
  parameters : ∀ s ∈ d.parameters, s.IsParameter
  result : Signature.IsSignature d.result.chars

namespace Descriptor

open Signature (scan ofChars IsSignature)

/-- What the scanner does at the start of a parameter. -/
theorem scanParameters_of_scan {offset : Nat} {cs lexeme after : List Char}
    (h : scan offset cs = .ok (lexeme, after)) (notVoid : lexeme ≠ ['V']) :
    scanParameters offset cs =
      (scanParameters (offset + byteLength lexeme) after).map
        fun p => (ofChars lexeme :: p.1, p.2) := by
  rw [scanParameters.eq_def]
  split
  · cases h
  · cases h
  · split
    · rename_i failed
      rw [h] at failed
      cases failed
    · rename_i scanned
      rw [h] at scanned
      cases scanned
      rw [if_neg notVoid]

/-- The scanner of parameters reads signatures up to the closing parenthesis. -/
theorem scanParameters_eq_ok_iff {offset : Nat} {cs rest : List Char}
    {parameters : List Signature} :
    (∃ next, scanParameters offset cs = .ok (parameters, next, rest)) ↔
      (∀ s ∈ parameters, s.IsParameter) ∧
        cs = parameters.flatMap Signature.chars ++ ')' :: rest := by
  constructor
  · rintro ⟨next, read⟩
    -- one round of the scanner for each parameter
    fun_induction scanParameters offset cs generalizing parameters with
    | case1 | case3 | case4 => cases read
    | case2 =>
        cases read
        simp
    | case5 offset c tail _ lexeme after found notVoid _ ih =>
        obtain ⟨⟨others, last⟩, scanned, same⟩ := Except.map_eq_ok_iff.1 read
        cases same
        obtain ⟨isSignature, split⟩ := Signature.scan_eq_ok_iff.1 found
        obtain ⟨areParameters, rfl⟩ := ih scanned
        have isParameter : (ofChars lexeme).IsParameter :=
          ⟨by simpa using isSignature, by simpa [Signature.eq_void_iff] using notVoid⟩
        exact ⟨List.forall_mem_cons.2 ⟨isParameter, areParameters⟩, by simp [split]⟩
  · rintro ⟨areParameters, rfl⟩
    induction parameters generalizing offset with
    | nil => exact ⟨offset + 1, by simp [scanParameters]⟩
    | cons s parameters ih =>
        obtain ⟨⟨isSignature, notVoid⟩, areParameters⟩ := List.forall_mem_cons.1 areParameters
        rw [Ne, Signature.eq_void_iff] at notVoid
        obtain ⟨next, scanned⟩ := @ih (offset + byteLength s.chars) areParameters
        refine ⟨next, ?_⟩
        rw [List.flatMap_cons, List.append_assoc,
          scanParameters_of_scan (Signature.scan_eq_ok_iff.2 ⟨isSignature, rfl⟩) notVoid, scanned]
        simp [Except.map]

/-- A text is read as a descriptor exactly if it is the written form of a well-formed one. -/
theorem parse_eq_ok_iff {cs : List Char} {d : Descriptor} :
    parse cs = .ok d ↔ d.IsWellFormed ∧ cs = d.chars := by
  constructor
  · intro read
    unfold parse at read
    split at read
    · rename_i inner
      split at read
      · cases read
      · rename_i parameters next rest scanned
        obtain ⟨areParameters, rfl⟩ := scanParameters_eq_ok_iff.1 ⟨next, scanned⟩
        split at read
        · cases read
        · rename_i result found
          obtain ⟨isSignature, rfl⟩ := Signature.scan_eq_ok_iff.1 found
          cases read
          exact ⟨⟨areParameters, by simpa using isSignature⟩, by simp [chars]⟩
        · cases read
    · cases read
  · rintro ⟨wellFormed, rfl⟩
    obtain ⟨next, scanned⟩ : ∃ next, scanParameters 1
        (d.parameters.flatMap Signature.chars ++ ')' :: d.result.chars) =
          .ok (d.parameters, next, d.result.chars) :=
      scanParameters_eq_ok_iff.2 ⟨wellFormed.parameters, rfl⟩
    have found : scan next d.result.chars = .ok (d.result.chars, []) :=
      Signature.scan_eq_ok_iff.2 ⟨wellFormed.result, by simp⟩
    simp [parse, chars, scanned, found]

end Descriptor

end MixinIndex
