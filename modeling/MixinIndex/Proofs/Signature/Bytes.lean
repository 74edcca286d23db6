import Mathlib.Data.List.TakeWhile
import MixinIndex.Proofs.Outcome
import MixinIndex.Proofs.Text.Slicing
import MixinIndex.Signature.Scanner

/-!
# Scanning signatures by bytes

The scanner for signatures once more, on the bytes of the whole text and with offsets into them: it
gives the offset at which a signature ends, and the readers slice the text there.  At a boundary it
does what the scanner of characters does with the rest of the text.  So it only stops at boundaries,
whatever the text is, and every slice has a result.

## Main definitions

* `Signature.scanAt`: the end of the signature at an offset
* `Signature.parseAt`, `Descriptor.parseAt`: a whole text as a signature or descriptor
* `Descriptor.readParametersAt`: the parameters of a descriptor

## Main statements

* `Signature.lt_of_scanAt`: a signature takes up bytes, so reading parameters comes to an end
* `Signature.scanAt_bytes`: both scanners find the same end
* `Signature.parseAt_eq`, `Descriptor.parseAt_eq`: the readers agree
-/

namespace MixinIndex

open Text

namespace Signature

/-! ### Scanning bytes -/

/-- The end of a class signature that starts at `start`, from the bytes at `i` and behind it. -/
def scanClassAt (start : Nat) : Nat → Nat → List UInt8 → Except Fault Nat
  | _, _, [] => .error .unterminatedClass
  | depth, i, b :: bs =>
    if b = '<'.toUInt8 then scanClassAt start (depth + 1) (i + 1) bs
    else if b = '>'.toUInt8 then
      if depth = 0 then .error (.unbalanced i) else scanClassAt start (depth - 1) (i + 1) bs
    else if b = '('.toUInt8 ∨ b = ')'.toUInt8 then .error (.unexpected (.ofNat b.toNat) i)
    else if b = ';'.toUInt8 ∧ depth = 0 then
      if i = start + 1 then .error .emptyClass else .ok (i + 1)
    else scanClassAt start depth (i + 1) bs

/-- The end of a type variable whose letter stands at `i`. -/
def scanVariableAt (bs : List UInt8) (i : Nat) : Slicing Fault Nat := do
  let rest ← bytesFrom? bs (i + 1)
  match rest.findIdx? (· == ';'.toUInt8) with
  | none => throw .unterminatedVariable
  | some p =>
    let last := i + 1 + p
    if last = i + 1 then throw .emptyVariable
    else
      let name ← bytesBetween? bs (i + 1) last
      if name.any (['<', '>', '(', ')'].map Char.toUInt8).contains then throw .malformedVariable
      else return last + 1

/-- The end of the element type at an offset, or of a type that is none. -/
def scanElementAt (bs : List UInt8) (isArray : Bool) (i : Nat) : Slicing Fault Nat :=
  match bs[i]? with
  | none => throw .unexpectedEnd
  | some lead =>
    if lead ∈ baseLetters.map Char.toUInt8 then return i + 1
    else if lead = 'V'.toUInt8 then if isArray then throw .arrayOfVoid else return i + 1
    else if lead = 'L'.toUInt8 ∨ lead = 'Q'.toUInt8 then
      scanClassAt i 0 (i + 1) (bs.drop (i + 1))
    else if lead = 'T'.toUInt8 then scanVariableAt bs i
    else throw (.unexpected (.ofNat lead.toNat) i)

/-- The end of the signature that starts at an offset. -/
def scanAt (bs : List UInt8) (start : Nat) : Slicing Fault Nat :=
  let dims := (bs.drop start).takeWhile (· == '['.toUInt8)
  scanElementAt bs (!dims.isEmpty) (start + dims.length)

/-- The end of the signature that makes up a text from an offset on. -/
def scanToEndAt (cs : List Char) (start : Nat) : Slicing Fault Nat := do
  let last ← scanAt (bytes cs) start
  if last ≠ byteLength cs then throw (.trailing last)
  else return last

/-- The text as one signature. -/
def parseAt (cs : List Char) : Slicing Fault Signature := do
  let _ ← scanToEndAt cs 0
  return ofChars cs

/-! ### Progress -/

theorem lt_of_scanClassAt {start depth i last : Nat} {bs : List UInt8}
    (scanned : scanClassAt start depth i bs = .ok last) : i < last := by
  induction bs generalizing depth i with
  | nil => cases scanned
  | cons b bs ih =>
      rw [scanClassAt] at scanned
      split_ifs at scanned
      · exact Nat.lt_of_succ_lt (ih scanned)
      · exact Nat.lt_of_succ_lt (ih scanned)
      · cases scanned
        exact Nat.lt_succ_self i
      · exact Nat.lt_of_succ_lt (ih scanned)

theorem lt_of_scanVariableAt {bs : List UInt8} {i last : Nat}
    (scanned : (scanVariableAt bs i).run = some (.ok last)) : i < last := by
  obtain ⟨rest, -, found⟩ := Slicing.run_bind_eq_ok_iff.1 scanned
  split at found
  · cases found
  · simp only at found
    split_ifs at found with empty
    · cases found
    · obtain ⟨name, -, named⟩ := Slicing.run_bind_eq_ok_iff.1 found
      split_ifs at named
      · cases named
      · cases named
        omega

theorem lt_of_scanElementAt {bs : List UInt8} {isArray : Bool} {i last : Nat}
    (scanned : (scanElementAt bs isArray i).run = some (.ok last)) : i < last := by
  rw [scanElementAt] at scanned
  split at scanned
  · cases scanned
  · split_ifs at scanned
    · cases scanned
      exact Nat.lt_succ_self i
    · cases scanned
    · cases scanned
      exact Nat.lt_succ_self i
    · exact Nat.lt_of_succ_lt (lt_of_scanClassAt (Option.some.inj scanned))
    · exact lt_of_scanVariableAt scanned
    · cases scanned

/-- A signature takes up bytes. -/
theorem lt_of_scanAt {bs : List UInt8} {start last : Nat}
    (scanned : (scanAt bs start).run = some (.ok last)) : start < last :=
  (Nat.le_add_right _ _).trans_lt (lt_of_scanElementAt scanned)

/-! ### Bytes and characters -/

/-- Bytes that are no ASCII characters are passed over. -/
theorem scanClassAt_skip {start depth i : Nat} {skipped : List UInt8}
    (beyond : ∀ b ∈ skipped, 0x80 ≤ b.toNat) (bs : List UInt8) :
    scanClassAt start depth i (skipped ++ bs) =
      scanClassAt start depth (i + skipped.length) bs := by
  induction skipped generalizing i with
  | nil => rfl
  | cons b skipped ih =>
      obtain ⟨large, others⟩ := List.forall_mem_cons.1 beyond
      have notByte (d : Char) (ascii : d.toNat < 0x80) : b ≠ d.toUInt8 := by
        rintro rfl
        rw [toNat_toUInt8 ascii] at large
        omega
      rw [List.cons_append, scanClassAt, if_neg (notByte _ (by decide)),
        if_neg (notByte _ (by decide)), if_neg (not_or_intro (notByte _ (by decide))
          (notByte _ (by decide))), if_neg (mt And.left (notByte _ (by decide))), ih others,
        List.length_cons]
      congr 1
      omega

/-- A class signature ends at the same place for both scanners. -/
theorem scanClassAt_bytes {start depth i : Nat} (behind : start + 1 ≤ i) (cs : List Char) :
    scanClassAt start depth i (bytes cs) =
      (scanBody depth (decide (i = start + 1)) i cs).map fun p => i + byteLength p.1 := by
  induction cs generalizing depth i with
  | nil => rfl
  | cons c cs ih =>
      have positive := c.utf8Size_pos
      have goOn (next : Nat) : scanClassAt start next (i + c.utf8Size) (bytes cs) =
          ((scanBody next false (i + c.utf8Size) cs).map fun p => (c :: p.1, p.2)).map
            fun p => i + byteLength p.1 := by
        have started : decide (i + c.utf8Size = start + 1) = false :=
          decide_eq_false (by omega)
        rw [ih (by omega), started]
        cases scanBody next false (i + c.utf8Size) cs with
        | error fault => rfl
        | ok p => exact congrArg Except.ok (Nat.add_assoc _ _ _)
      rw [bytes_cons]
      by_cases ascii : c.toNat < 0x80
      · have encoded := utf8EncodeChar_of_ascii ascii
        have single := utf8Size_of_ascii ascii
        have same (d : Char) (ascii' : d.toNat < 0x80) : c.toUInt8 = d.toUInt8 ↔ c = d :=
          toUInt8_eq_iff ascii ascii'
        rw [single] at goOn
        rw [encoded, List.singleton_append]
        simp (disch := decide) only [scanClassAt, scanBody, same, goOn, single, decide_eq_true_eq,
          toNat_toUInt8 ascii, Char.ofNat_toNat]
        -- now both sides branch on the same conditions
        split_ifs <;> first | rfl | exact congrArg (fun n => Except.ok (i + n)) single.symm
      · have beyond (b : UInt8) : b ∈ String.utf8EncodeChar c → 0x80 ≤ b.toNat :=
          le_of_mem_utf8EncodeChar (Nat.le_of_not_lt ascii)
        have notChar (d : Char) (ascii' : d.toNat < 0x80) : c ≠ d := by
          rintro rfl
          exact ascii ascii'
        rw [scanClassAt_skip beyond, String.length_utf8EncodeChar, goOn]
        simp (disch := decide) only [scanBody, notChar, if_false, false_and, or_self]

/-- A type variable ends at the same place for both scanners, and its name can be sliced. -/
theorem scanVariableAt_bytes (before rest : List Char) :
    (scanVariableAt (bytes (before ++ 'T' :: rest)) (byteLength before)).run =
      some ((scanVariable rest).map fun p => byteLength before + 1 + byteLength p.1) := by
  have lead : before ++ 'T' :: rest = (before ++ ['T']) ++ rest := by simp
  have behind : byteLength before + 1 = byteLength (before ++ ['T']) := by
    rw [byteLength_append]
    rfl
  rw [scanVariableAt, behind, lead, Slicing.run_lift_bind (bytesFrom?_bytes _ rest),
    findIdx?_bytes (by decide), scanVariable]
  cases found : splitFirst? ';' rest with
  | none => rfl
  | some p =>
      obtain ⟨name, after⟩ := p
      obtain ⟨rfl, -⟩ := splitFirst?_eq_some.1 found
      have empty : byteLength (before ++ ['T']) + byteLength name = byteLength (before ++ ['T']) ↔
          name = [] := by
        rw [← byteLength_eq_zero]
        omega
      have sliced := bytesBetween?_bytes (before ++ ['T']) name (';' :: after)
      simp only [Option.map_some, empty]
      split_ifs with noName malformed
      · rfl
      · rw [Slicing.run_lift_bind sliced, any_bytes (by decide), if_pos malformed]
        rfl
      · rw [Slicing.run_lift_bind sliced, any_bytes (by decide), if_neg malformed]
        have ends : byteLength (before ++ ['T']) + byteLength name + 1 =
            byteLength (before ++ ['T']) + byteLength (name ++ [';']) := by
          rw [byteLength_append name, ← Nat.add_assoc]
          rfl
        exact congrArg (fun last => some (Except.ok last)) ends

/-- An element ends at the same place for both scanners. -/
theorem scanElementAt_bytes (before rest : List Char) (isArray : Bool) :
    (scanElementAt (bytes (before ++ rest)) isArray (byteLength before)).run =
      some ((scanElement isArray (byteLength before) rest).map
        fun p => byteLength before + byteLength p.1) := by
  cases rest with
  | nil =>
      rw [scanElementAt, getElem?_bytes]
      rfl
  | cons c cs =>
      obtain ⟨lead, isChar, read, inside⟩ := exists_lead before c cs
      have allAscii : baseLetters.all (·.toNat < 0x80) = true := by decide
      have letters : ∀ d ∈ baseLetters, d.toNat < 0x80 := by simpa using allAscii
      have isLetter : lead ∈ baseLetters.map Char.toUInt8 ↔ c ∈ baseLetters := by
        rw [List.mem_map]
        constructor
        · rintro ⟨d, mem, isLead⟩
          rwa [(isChar d (letters d mem)).1 isLead.symm]
        · intro mem
          exact ⟨c, mem, ((isChar c (letters c mem)).2 rfl).symm⟩
      rw [scanElementAt, inside]
      simp (disch := decide) only [isLetter, isChar, scanElement, read]
      split_ifs with letter isVoid array reference isVariable
      · have single : byteLength [c] = 1 := utf8Size_of_ascii (letters c letter)
        exact congrArg (fun length => some (Except.ok (byteLength before + length))) single.symm
      · rfl
      · subst isVoid
        rfl
      · have single : c.utf8Size = 1 := by
          rcases reference with rfl | rfl <;> rfl
        have behind : byteLength before + 1 = byteLength (before ++ [c]) := by
          rw [byteLength_append, byteLength_cons, single, byteLength_nil]
        have rest : (bytes (before ++ c :: cs)).drop (byteLength before + 1) = bytes cs := by
          rw [behind, ← drop_bytes (before ++ [c]) cs, List.append_assoc, List.singleton_append]
        rw [rest, scanClassAt_bytes (Nat.le_refl _), decide_eq_true rfl]
        cases scanBody 0 true (byteLength before + 1) cs with
        | error fault => rfl
        | ok p =>
            have ends : byteLength before + 1 + byteLength p.1 =
                byteLength before + byteLength (c :: p.1) := by
              rw [byteLength_cons, single, Nat.add_assoc]
            exact congrArg (fun last => some (Except.ok last)) ends
      · subst isVariable
        rw [scanVariableAt_bytes]
        cases scanVariable cs with
        | error fault => rfl
        | ok p => exact congrArg (fun last => some (Except.ok last)) (Nat.add_assoc _ _ _)
      · rfl

/-- A signature ends at the same place for both scanners. -/
theorem scanAt_bytes (before rest : List Char) :
    (scanAt (bytes (before ++ rest)) (byteLength before)).run =
      some ((scan (byteLength before) rest).map fun p => byteLength before + byteLength p.1) := by
  rw [scanAt, drop_bytes, takeWhile_bytes (by decide), scan]
  generalize isDims : rest.takeWhile (· == '[') = dims
  generalize isTail : rest.dropWhile (· == '[') = tail
  obtain rfl : dims ++ tail = rest := by
    rw [← isDims, ← isTail, List.takeWhile_append_dropWhile]
  have counted : byteLength dims = dims.length := by
    apply byteLength_of_ascii
    intro c mem
    rw [← isDims] at mem
    obtain rfl : c = '[' := by simpa using List.mem_takeWhile_imp mem
    decide
  have isArray : (bytes dims).isEmpty = dims.isEmpty := by
    rw [Bool.eq_iff_iff, List.isEmpty_iff_length_eq_zero, List.isEmpty_iff_length_eq_zero,
      length_bytes, counted]
  have element := scanElementAt_bytes (before ++ dims) tail (!dims.isEmpty)
  rw [List.append_assoc, byteLength_append, counted] at element
  simp only [isArray, length_bytes, counted, element]
  cases scanElement (!dims.isEmpty) (byteLength before + dims.length) tail with
  | error fault => rfl
  | ok p =>
      have ends : byteLength before + dims.length + byteLength p.1 =
          byteLength before + byteLength (dims ++ p.1) := by
        rw [byteLength_append, counted, Nat.add_assoc]
      exact congrArg (fun last => some (Except.ok last)) ends

/-- Both scanners find the end of the text behind a signature, or what stands there instead. -/
theorem scanToEndAt_bytes (before rest : List Char) :
    (scanToEndAt (before ++ rest) (byteLength before)).run =
      some (match scan (byteLength before) rest with
        | .error fault => .error fault
        | .ok (lexeme, []) => .ok (byteLength before + byteLength lexeme)
        | .ok (lexeme, _ :: _) => .error (.trailing (byteLength before + byteLength lexeme))) := by
  have scanned := scanAt_bytes before rest
  rw [scanToEndAt]
  cases found : scan (byteLength before) rest with
  | error fault =>
      rw [found] at scanned
      exact Slicing.run_bind_of_error scanned _
  | ok p =>
      obtain ⟨lexeme, after⟩ := p
      obtain ⟨rfl, -⟩ := scan_append found
      have counted : byteLength (before ++ (lexeme ++ after)) =
          byteLength before + byteLength lexeme + byteLength after := by
        rw [byteLength_append, byteLength_append, Nat.add_assoc]
      rw [found] at scanned
      rw [Slicing.run_bind_of_ok scanned, counted]
      cases after with
      | nil =>
          rw [byteLength_nil, Nat.add_zero, if_neg (Classical.not_not.2 rfl)]
          rfl
      | cons c after =>
          have positive := c.utf8Size_pos
          have longer : byteLength before + byteLength lexeme ≠
              byteLength before + byteLength lexeme + byteLength (c :: after) := by
            rw [byteLength_cons]
            omega
          rw [if_pos longer]
          rfl

/-- A whole text is read as a signature by offsets as it is without them. -/
theorem parseAt_eq (cs : List Char) : (parseAt cs).run = some (parse cs) := by
  have ended := scanToEndAt_bytes [] cs
  rw [List.nil_append, byteLength_nil] at ended
  rw [parseAt, parse]
  cases found : scan 0 cs with
  | error fault =>
      rw [found] at ended
      exact Slicing.run_bind_of_error ended _
  | ok p =>
      obtain ⟨lexeme, rest⟩ := p
      obtain ⟨rfl, -⟩ := scan_append found
      rw [found] at ended
      cases rest with
      | nil =>
          rw [Slicing.run_bind_of_ok ended, List.append_nil]
          rfl
      | cons c rest =>
          rw [Slicing.run_bind_of_error ended]
          exact congrArg (fun last => some (Except.error (Fault.trailing last))) (Nat.zero_add _)

end Signature

namespace Descriptor

open Signature (Fault scan scanAt scanToEndAt scanAt_bytes scanToEndAt_bytes ofChars)

/-- The parameters from an offset on, and the offset behind the closing parenthesis. -/
def readParametersAt (cs : List Char) (i : Nat) : Slicing Fault (List Signature × Nat) :=
  match inside : (bytes cs)[i]? with
  | none => throw .unterminatedParameters
  | some b =>
    if b = ')'.toUInt8 then return ([], i + 1)
    else
      match scanned : (scanAt (bytes cs) i).run with
      | none => none
      | some (.error fault) => throw fault
      | some (.ok last) => do
        let parameter ← slice? cs i last
        if parameter = ['V'] then throw .voidParameter
        else
          have := Signature.lt_of_scanAt scanned
          have := (List.getElem?_eq_some_iff.1 inside).1
          let (parameters, next) ← readParametersAt cs last
          return (ofChars parameter :: parameters, next)
termination_by (bytes cs).length - i
decreasing_by omega

/-- The text as one descriptor. -/
def parseAt (cs : List Char) : Slicing Fault Descriptor :=
  if (bytes cs).head? ≠ some '('.toUInt8 then throw .missingParameters
  else do
    let (parameters, i) ← readParametersAt cs 1
    let last ← scanToEndAt cs i
    let result ← slice? cs i last
    return ⟨parameters, ofChars result⟩

/-- What is left behind the parameters starts at the offset that is given with it. -/
theorem exists_of_scanParameters {offset next : Nat} {cs rest : List Char}
    {parameters : List Signature}
    (read : scanParameters offset cs = .ok (parameters, next, rest)) :
    ∃ part, cs = part ++ rest ∧ next = offset + byteLength part := by
  fun_induction scanParameters offset cs generalizing parameters with
  | case1 | case3 | case4 => cases read
  | case2 offset after =>
      cases read
      exact ⟨[')'], rfl, rfl⟩
  | case5 offset c tail _ lexeme after found notVoid _ ih =>
      obtain ⟨⟨others, last⟩, scanned, same⟩ := Except.map_eq_ok_iff.1 read
      cases same
      obtain ⟨part, rfl, rfl⟩ := ih scanned
      refine ⟨lexeme ++ part, ?_, ?_⟩
      · rw [(Signature.scan_append found).1, List.append_assoc]
      · rw [byteLength_append, Nat.add_assoc]

/-- One round of the reader, without what shows that it comes to an end. -/
theorem readParametersAt_eq (cs : List Char) (i : Nat) :
    readParametersAt cs i = match (bytes cs)[i]? with
      | none => throw .unterminatedParameters
      | some b =>
        if b = ')'.toUInt8 then return ([], i + 1)
        else do
          let last ← scanAt (bytes cs) i
          let parameter ← slice? cs i last
          if parameter = ['V'] then throw .voidParameter
          else
            let (parameters, next) ← readParametersAt cs last
            return (ofChars parameter :: parameters, next) := by
  rw [readParametersAt]
  split
  · rename_i outside
    rw [outside]
  · rename_i b inside
    conv => rhs; rw [inside]
    dsimp only
    congr 1
    apply ExceptT.ext
    split
    · rename_i scanned
      show none = Option.bind (scanAt (bytes cs) i).run _
      rw [scanned]
      rfl
    · rename_i scanned
      rw [Slicing.run_bind_of_error scanned]
      rfl
    · rename_i scanned
      rw [Slicing.run_bind_of_ok scanned]

/-- A parameter is scanned where the text goes on with another character than the closing
parenthesis. -/
theorem readParametersAt_of_ne (before : List Char) {c : Char} (tail : List Char) (h : c ≠ ')') :
    readParametersAt (before ++ c :: tail) (byteLength before) = do
      let last ← scanAt (bytes (before ++ c :: tail)) (byteLength before)
      let parameter ← slice? (before ++ c :: tail) (byteLength before) last
      if parameter = ['V'] then throw .voidParameter
      else
        let (parameters, next) ← readParametersAt (before ++ c :: tail) last
        return (ofChars parameter :: parameters, next) := by
  obtain ⟨lead, isChar, -, inside⟩ := exists_lead before c tail
  rw [readParametersAt_eq, inside]
  exact if_neg (mt (isChar _ (by decide)).1 h)

/-- The parameters are the same for both readers, and so is the offset behind them. -/
theorem readParametersAt_bytes (before rest : List Char) :
    (readParametersAt (before ++ rest) (byteLength before)).run =
      some ((scanParameters (byteLength before) rest).map fun p => (p.1, p.2.1)) := by
  generalize isOffset : byteLength before = offset
  fun_induction scanParameters offset rest generalizing before with
  | case1 offset =>
      rw [← isOffset, readParametersAt_eq, getElem?_bytes]
      rfl
  | case2 offset after =>
      obtain ⟨lead, isChar, -, inside⟩ := exists_lead before ')' after
      rw [← isOffset, readParametersAt_eq, inside]
      simp only [(isChar ')' (by decide)).2 rfl, if_true]
      rfl
  | case3 offset c tail notClosing fault found =>
      subst isOffset
      have scanned := scanAt_bytes before (c :: tail)
      rw [found] at scanned
      rw [readParametersAt_of_ne before tail notClosing]
      exact Slicing.run_bind_of_error scanned _
  | case4 offset c tail notClosing after found =>
      subst isOffset
      have scanned := scanAt_bytes before (c :: tail)
      rw [found] at scanned
      rw [readParametersAt_of_ne before tail notClosing, Slicing.run_bind_of_ok scanned,
        (Signature.scan_append found).1]
      exact Slicing.run_lift_bind (slice?_append before ['V'] after) _
  | case5 offset c tail notClosing lexeme after found notVoid _ ih =>
      subst isOffset
      have scanned := scanAt_bytes before (c :: tail)
      have others := ih (before ++ lexeme) (byteLength_append before lexeme)
      rw [List.append_assoc, ← (Signature.scan_append found).1] at others
      rw [found] at scanned
      rw [readParametersAt_of_ne before tail notClosing, Slicing.run_bind_of_ok scanned]
      have sliced := slice?_append before lexeme after
      rw [← (Signature.scan_append found).1] at sliced
      refine (Slicing.run_lift_bind sliced _).trans ?_
      rw [if_neg notVoid]
      cases read : scanParameters (byteLength before + byteLength lexeme) after with
      | error fault =>
          rw [read] at others
          rw [Slicing.run_bind_of_error others]
          rfl
      | ok p =>
          rw [read] at others
          rw [Slicing.run_bind_of_ok others]
          rfl

/-- A whole text is read as a descriptor by offsets as it is without them. -/
theorem parseAt_eq (cs : List Char) : (parseAt cs).run = some (parse cs) := by
  cases cs with
  | nil => rfl
  | cons c cs =>
      obtain ⟨lead, isChar, -, isHead⟩ := exists_lead [] c cs
      rw [List.nil_append, byteLength_nil, ← List.head?_eq_getElem?] at isHead
      rw [parseAt, isHead]
      by_cases isOpening : c = '('
      · subst isOpening
        rw [if_neg (by rw [(isChar _ (by decide)).2 rfl, Classical.not_not]), parse]
        have parametersRead : (readParametersAt ('(' :: cs) 1).run = _ :=
          readParametersAt_bytes ['('] cs
        have single : byteLength ['('] = 1 := rfl
        rw [single] at parametersRead
        cases read : scanParameters 1 cs with
        | error fault =>
            rw [read] at parametersRead
            rw [Slicing.run_bind_of_error parametersRead]
        | ok p =>
            obtain ⟨parameters, next, rest⟩ := p
            rw [read] at parametersRead
            obtain ⟨part, rfl, rfl⟩ := exists_of_scanParameters read
            have ended := scanToEndAt_bytes ('(' :: part) rest
            have behind : byteLength ('(' :: part) = 1 + byteLength part := rfl
            rw [behind] at ended
            rw [Slicing.run_bind_of_ok parametersRead]
            simp only
            cases found : scan (1 + byteLength part) rest with
            | error fault =>
                rw [found] at ended
                exact Slicing.run_bind_of_error ended _
            | ok p =>
                obtain ⟨result, rest⟩ := p
                obtain ⟨rfl, -⟩ := Signature.scan_append found
                rw [found] at ended
                cases rest with
                | nil =>
                    have sliced := slice?_append ('(' :: part) result []
                    rw [behind] at sliced
                    exact (Slicing.run_bind_of_ok ended _).trans (Slicing.run_lift_bind sliced _)
                | cons c rest => exact Slicing.run_bind_of_error ended _
      · have notOpening : some lead ≠ some '('.toUInt8 := by
          rw [Ne, Option.some.injEq, isChar _ (by decide)]
          exact isOpening
        rw [if_pos notOpening, parse]
        · rfl
        · intro _ split
          exact isOpening (List.cons.inj split).1

end Descriptor

end MixinIndex
