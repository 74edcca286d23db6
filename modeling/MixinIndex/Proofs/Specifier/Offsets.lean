import MixinIndex.Proofs.Quantifier.Offsets
import MixinIndex.Proofs.Signature.Bytes
import MixinIndex.Proofs.Specifier.Grammar

/-!
# Specifiers and byte offsets

The reader of specifiers once more, by offsets into the text: each scanner gives the offset at which
a piece ends, and the pieces are slices between these offsets.  An offset that is no boundary leaves
the reader without a result.  Both readers agree on every text, so this does not happen; and when
they stop at a fault, its offset is a boundary as well.

## Main definitions

* `Specifier.dottedOwnerAt`, `Specifier.wrappedOwnerAt`, `Specifier.nameEndAt`,
  `Specifier.tokenEndAt`, `Specifier.descriptorAt`: the pieces by offsets
* `Specifier.parseAt`: the specifier of a text
* `Specifier.PointsInto`: an error that names a text and a boundary of it

## Main statements

* `Specifier.parseAt_eq`: both readers agree
* `Specifier.parse_failsWithin`: faults are at boundaries
* `Specifier.parse_at_boundaries`: the readers of all texts from outside

## Design notes

Each scanner is compared at a cut of the text, where its offset is the length of what stands before.
The descriptor has to start at the first parenthesis of the whole text.  The reader without offsets
only looks at the next character; this is the same, since no piece before a descriptor holds a
parenthesis.
-/

namespace MixinIndex.Specifier

open Text

/-! ### Slices -/

/-- Where the descriptor starts, if there is one: the first parenthesis, or else the end. -/
def memberLimit (cs : List Char) : Nat := (find? '(' cs).getD (byteLength cs)

/-- The dotted owner before `limit`, and the offset behind its dot. -/
def dottedOwnerAt (cs : List Char) (limit : Nat) : Slicing Located (Option (List Char) × Nat) := do
  let head ← slice? cs 0 limit
  match findLast? '.' head with
  | none => return (none, 0)
  | some dot =>
    let owner ← slice? cs 0 dot
    let () ← checkSegments 0 (splitAll '.' owner)
    return (some owner, dot + 1)

/-- The end of the owner `L…;` at an offset, if a semicolon stands between it and `limit`. -/
def wrappedOwnerAt (cs : List Char) (start limit : Nat) : Slicing Located (Option Nat) := do
  let head ← slice? cs start limit
  match find? ';' head with
  | none => return none
  | some p =>
    let semicolon := start + p
    let rest ← from? cs start
    if rest.head? ≠ some 'L' then throw (semicolon, .unexpectedSemicolon)
    else
      let body ← slice? cs (start + 1) semicolon
      if body = [] then throw (start, .emptyOwner)
      else
        match findNot? (fun c => isNameChar c || c == '/') body with
        | some (i, c) => throw (start + 1 + i, .unexpectedInOwner c)
        | none => return some (semicolon + 1)

/-- The end of the name at an offset. -/
def nameEndAt (cs : List Char) (start : Nat) : Slicing Located Nat := do
  let rest ← from? cs start
  if rest.head? = some '<' then
    match [constructorName, staticInitializerName].find? (·.toList.isPrefixOf rest) with
    | some special => return start + byteLength special.toList
    | none => throw (start, .specialName)
  else
    match findNot? isNameChar rest with
    | some (i, _) => return start + i
    | none => return start + byteLength rest

/-- The end of the token of a quantifier at an offset. -/
def tokenEndAt (cs : List Char) (start : Nat) : Slicing Located Nat :=
  match (bytes cs)[start]? with
  | none => return start
  | some b =>
    if b = '*'.toUInt8 ∨ b = '+'.toUInt8 then return start + 1
    else if b = '{'.toUInt8 then do
      let rest ← from? cs start
      match find? '}' rest with
      | some i => return start + i + 1
      | none => throw (start, .unterminatedQuantifier)
    else return start

/-- The descriptor from an offset on, which has to be where the first parenthesis stands. -/
def descriptorAt (cs : List Char) (start limit : Nat) : Slicing Located (Option Descriptor) :=
  if start < byteLength cs then do
    let rest ← from? cs start
    if start ≠ limit then throw (start, .unexpected (rest.headD '\x00'))
    else
      let descriptor ← (Descriptor.parseAt rest).adapt fun fault => (start, .descriptor fault)
      return some descriptor
  else return none

/-- Name, quantifier and descriptor from an offset on. -/
def parseMemberAt (raw : String) (owner : Option (List Char)) (start limit : Nat) :
    Slicing Located Specifier := do
  let cs := raw.toList
  let nameEnd ← nameEndAt cs start
  let name ← slice? cs start nameEnd
  let tokenEnd ← tokenEndAt cs nameEnd
  let token ← slice? cs nameEnd tokenEnd
  let quantifier ← (Quantifier.parseAt token).adapt fun e => (nameEnd + e.1, .quantifier e.2)
  let descriptor ← descriptorAt cs tokenEnd limit
  return {
    owner := owner.map fun cs => TypeName.ofText (String.ofList cs)
    name := nonEmpty name
    descriptor
    quantifier
    raw }

/-- The specifier of a text. -/
def parseAt (raw : String) : Slicing Located Specifier := do
  let cs := raw.toList
  let limit := memberLimit cs
  let (dotted, start) ← dottedOwnerAt cs limit
  let wrapped ← wrappedOwnerAt cs start limit
  match dotted, wrapped with
  | some _, some _ => throw (start, .twoOwners)
  | none, some last => do
    let owner ← slice? cs start last
    parseMemberAt raw (some owner) last limit
  | dotted, none => parseMemberAt raw dotted start limit

/-! ### The same pieces -/

theorem dottedOwnerAt_append (head tail : List Char) :
    (dottedOwnerAt (head ++ tail) (byteLength head)).run =
      some ((dottedOwner head).map fun p => (p.1, p.1.elim 0 (byteLength · + 1))) := by
  rw [dottedOwnerAt, Slicing.run_lift_bind (slice?_zero head tail), dottedOwner, findLast?]
  cases found : splitLast? '.' head with
  | none => rfl
  | some p =>
      obtain ⟨owner, rest⟩ := p
      obtain ⟨rfl, -⟩ := splitLast?_eq_some.1 found
      rw [List.append_assoc]
      refine (Slicing.run_lift_bind (slice?_zero owner _) _).trans ?_
      show _ = some (((checkSegments 0 (splitAll '.' owner)).map _).map _)
      cases checkSegments 0 (splitAll '.' owner) <;> rfl

/-- An owner `L…;` is looked for in the same part of the text, and ends at the same place. -/
theorem wrappedOwnerAt_append (before head tail : List Char) :
    (wrappedOwnerAt (before ++ (head ++ tail)) (byteLength before)
        (byteLength before + byteLength head)).run =
      some ((wrappedOwner (byteLength before) head).map
        fun p => p.1.map (byteLength before + byteLength ·)) := by
  rw [wrappedOwnerAt, Slicing.run_lift_bind (slice?_append before head tail), wrappedOwner, find?]
  cases found : splitFirst? ';' head with
  | none => rfl
  | some p =>
      obtain ⟨owner, rest⟩ := p
      obtain ⟨rfl, -⟩ := splitFirst?_eq_some.1 found
      simp only [Option.map_some]
      rw [Slicing.run_lift_bind (from?_append before _)]
      cases owner with
      | nil => rfl
      | cons c body =>
          by_cases isWrapped : c = 'L'
          · subst isWrapped
            have split : 'L' :: body ++ ';' :: rest ++ tail =
                'L' :: (body ++ (';' :: rest ++ tail)) := by
              simp
            rw [split, if_neg (by simp), Slicing.run_lift_bind (slice?_concat rfl before body _),
              findNot?]
            simp only
            split_ifs with empty
            · rfl
            · cases body.dropWhile fun c => isNameChar c || c == '/' with
              | cons d _ => rfl
              | nil =>
                  have ends : byteLength ('L' :: (body ++ [';'])) =
                      byteLength ('L' :: body) + 1 :=
                    byteLength_concat rfl ('L' :: body)
                  simp only [List.head?_nil, Option.map_none, Except.map, Option.map_some, ends]
                  rfl
          · have notLead : (c :: body ++ ';' :: rest ++ tail).head? ≠ some 'L' := by
              rintro ⟨⟩
              exact isWrapped rfl
            rw [if_pos notLead]
            split
            · rename_i same
              cases same
            · rename_i same
              cases same
              exact absurd rfl isWrapped
            · rename_i same
              cases same
              rfl

/-- A name ends at the same place for both scanners. -/
theorem nameEndAt_append (before rest : List Char) :
    (nameEndAt (before ++ rest) (byteLength before)).run =
      some ((scanName (byteLength before) rest).map
        fun p => byteLength before + byteLength p.1) := by
  rw [nameEndAt, Slicing.run_lift_bind (from?_append before rest)]
  by_cases special : rest.head? = some '<'
  · obtain ⟨after, rfl⟩ := List.head?_eq_some_iff.1 special
    rw [if_pos special, scanName, List.find?_cons, List.find?_cons]
    cases constructorName.toList.isPrefixOf ('<' :: after) with
    | true => rfl
    | false => cases staticInitializerName.toList.isPrefixOf ('<' :: after) <;> rfl
  · rw [if_neg special, scanName, findNot?]
    · cases left : rest.dropWhile isNameChar with
      | cons c _ => rfl
      | nil =>
          rw [List.takeWhile_eq_self_iff.2 (List.dropWhile_eq_nil_iff.1 left)]
          rfl
    · rintro after rfl
      exact special rfl

/-- A token is told by its first byte, and ends at the same place for both scanners. -/
theorem tokenEndAt_append (before rest : List Char) :
    (tokenEndAt (before ++ rest) (byteLength before)).run =
      some ((scanQuantifier (byteLength before) rest).map
        fun p => byteLength before + byteLength p.1) := by
  rw [tokenEndAt]
  cases rest with
  | nil =>
      rw [getElem?_bytes]
      rfl
  | cons c rest =>
      obtain ⟨lead, isChar, -, inside⟩ := exists_lead before c rest
      rw [inside]
      simp (disch := decide) only [isChar]
      split_ifs with isMark isBrace
      · rcases isMark with rfl | rfl <;> rfl
      · subst isBrace
        rw [Slicing.run_lift_bind (from?_append before _), scanQuantifier, find?, splitFirst?,
          if_neg (by decide)]
        cases splitFirst? '}' rest with
        | none => rfl
        | some p =>
            have ends : byteLength ('{' :: (p.1 ++ ['}'])) = byteLength ('{' :: p.1) + 1 :=
              byteLength_concat rfl ('{' :: p.1)
            simp only [Option.map_some, Except.map, ends]
            rfl
      · rw [not_or] at isMark
        rw [scanQuantifier]
        · rfl
        · rintro _ ⟨⟩
          exact isMark.1 rfl
        · rintro _ ⟨⟩
          exact isMark.2 rfl
        · rintro _ ⟨⟩
          exact isBrace rfl

/-- The descriptor starts where the rest of a text does, if and only if that is the first
parenthesis. -/
theorem memberLimit_append_cons_iff {before : List Char} (noParenthesis : '(' ∉ before) (c : Char)
    (rest : List Char) :
    byteLength before = memberLimit (before ++ c :: rest) ↔ c = '(' := by
  rw [memberLimit, find?]
  constructor
  · intro limit
    have left := from?_append before (c :: rest)
    cases found : splitFirst? '(' (before ++ c :: rest) with
    | none =>
        have positive := c.utf8Size_pos
        rw [found, Option.map_none, Option.getD_none, byteLength_append, byteLength_cons] at limit
        omega
    | some p =>
        obtain ⟨other, after⟩ := p
        obtain ⟨split, -⟩ := splitFirst?_eq_some.1 found
        rw [found, Option.map_some, Option.getD_some] at limit
        -- the offset determines what is left of the text
        rw [limit, split, from?_append] at left
        exact (List.cons.inj (Option.some.inj left)).1.symm
  · rintro rfl
    rw [splitFirst?_eq_some.2 ⟨rfl, noParenthesis⟩, Option.map_some, Option.getD_some]

/-- Where the first parenthesis is still ahead, it starts the descriptor for both scanners. -/
theorem descriptorAt_append {before : List Char} (noParenthesis : '(' ∉ before)
    (rest : List Char) :
    (descriptorAt (before ++ rest) (byteLength before) (memberLimit (before ++ rest))).run =
      some (scanDescriptor (byteLength before) rest) := by
  rw [descriptorAt, byteLength_append]
  cases rest with
  | nil =>
      rw [byteLength_nil, Nat.add_zero, if_neg (Nat.lt_irrefl _)]
      rfl
  | cons c rest =>
      have positive := c.utf8Size_pos
      have inside : byteLength before < byteLength before + byteLength (c :: rest) := by
        rw [byteLength_cons]
        omega
      have limit := memberLimit_append_cons_iff noParenthesis c rest
      rw [if_pos inside, Slicing.run_lift_bind (from?_append before (c :: rest))]
      by_cases opening : c = '('
      · have read := Slicing.run_adapt (Descriptor.parseAt_eq (c :: rest))
          fun fault => (byteLength before, Fault.descriptor fault)
        rw [if_neg (Classical.not_not.2 (limit.2 opening))]
        subst opening
        refine (Slicing.run_bind read fun descriptor _ => rfl).trans ?_
        rw [scanDescriptor]
        cases Descriptor.parse ('(' :: rest) <;> rfl
      · rw [if_pos (mt limit.1 opening), scanDescriptor]
        · rfl
        · exact opening

/-- What stands behind the owner is read by offsets as it is without them. -/
theorem parseMemberAt_eq {raw : String} (before rest : List Char)
    (split : raw.toList = before ++ rest) (noParenthesis : '(' ∉ before)
    (owner : Option (List Char)) :
    (parseMemberAt raw owner (byteLength before) (memberLimit raw.toList)).run =
      some (parseMember raw owner (byteLength before) rest) := by
  rw [parseMemberAt, parseMember, split]
  apply Slicing.run_bind_of_map (nameEndAt_append before rest)
  rintro ⟨name, afterName⟩ nameRead
  obtain ⟨isName, rfl⟩ := scanName_sound nameRead
  rw [Slicing.run_lift_bind (slice?_append before name afterName)]
  simp only [← byteLength_append, ← List.append_assoc]
  apply Slicing.run_bind_of_map (tokenEndAt_append (before ++ name) afterName)
  rintro ⟨token, afterToken⟩ tokenRead
  obtain rfl := scanQuantifier_sound tokenRead
  rw [Slicing.run_lift_bind (slice?_append (before ++ name) token afterToken)]
  have quantifierRead := Slicing.run_adapt (Quantifier.parseAt_eq token)
    fun e => (byteLength (before ++ name) + e.1, Fault.quantifier e.2)
  refine Slicing.run_bind quantifierRead fun quantifier parsed => ?_
  -- a token that was read holds no parenthesis, so the first one is still ahead
  have isToken := Quantifier.parse_eq_ok_iff.1 (Except.mapError_eq_ok_iff.1 parsed)
  have consumed : '(' ∉ before ++ name ++ token := by
    rw [List.append_assoc, List.mem_append, not_or]
    exact ⟨noParenthesis, notMem_of_isName isName isToken (by decide)⟩
  have descriptorRead := descriptorAt_append consumed afterToken
  rw [List.append_assoc] at descriptorRead
  simp only [← byteLength_append]
  exact Slicing.run_bind descriptorRead fun descriptor _ => rfl

theorem memberLimit_eq (cs : List Char) :
    memberLimit cs = byteLength (cs.takeWhile (· != '(')) := by
  rw [memberLimit, find?]
  cases found : splitFirst? '(' cs with
  | none =>
      have whole : (cs ++ []).takeWhile (· != '(') = cs :=
        (span_ne (splitFirst?_eq_none.1 found) (by simp)).1
      rw [List.append_nil] at whole
      rw [whole]
      rfl
  | some p =>
      obtain ⟨before, after⟩ := p
      obtain ⟨rfl, noParenthesis⟩ := splitFirst?_eq_some.1 found
      rw [(span_ne noParenthesis (by simp)).1]
      rfl

/-- A text is read by offsets as it is without them. -/
theorem parseAt_eq (raw : String) : (parseAt raw).run = some (parse raw) := by
  have split : raw.toList = raw.toList.takeWhile (· != '(') ++ raw.toList.dropWhile (· != '(') :=
    List.takeWhile_append_dropWhile.symm
  have noParenthesis : '(' ∉ raw.toList.takeWhile (· != '(') := by
    intro mem
    exact absurd (List.mem_takeWhile_imp mem) (by decide)
  have limit := memberLimit_eq raw.toList
  rw [parseAt, parse]
  generalize raw.toList.takeWhile (· != '(') = head at *
  generalize raw.toList.dropWhile (· != '(') = tail at *
  have dottedRead := dottedOwnerAt_append head tail
  rw [← split, ← limit] at dottedRead
  apply Slicing.run_bind_of_map dottedRead
  rintro ⟨dotted, rest⟩ dottedRead
  cases dotted with
  | none =>
      obtain ⟨-, rfl⟩ := dottedOwner_eq_none_iff.1 dottedRead
      have wrappedRead := wrappedOwnerAt_append [] rest tail
      rw [List.nil_append, ← split, byteLength_nil, Nat.zero_add, ← limit] at wrappedRead
      apply Slicing.run_bind_of_map wrappedRead
      rintro ⟨wrapped, after⟩ wrappedRead
      cases wrapped with
      | none =>
          obtain ⟨-, rfl⟩ := wrappedOwner_eq_none_iff.1 wrappedRead
          exact parseMemberAt_eq [] _ split List.not_mem_nil none
      | some owner =>
          obtain ⟨-, rfl⟩ := wrappedOwner_eq_some_iff.1 wrappedRead
          rw [List.append_assoc] at split
          have sliced := slice?_zero owner (after ++ tail)
          rw [← split] at sliced
          rw [List.mem_append, not_or] at noParenthesis
          simp only [Option.map_some, Option.elim_none, Nat.zero_add]
          rw [Slicing.run_lift_bind sliced]
          exact parseMemberAt_eq owner _ split noParenthesis.1 (some owner)
  | some owner =>
      obtain ⟨-, -, rfl⟩ := dottedOwner_eq_some_iff.1 dottedRead
      have behind : byteLength (owner ++ ['.']) = byteLength owner + 1 :=
        byteLength_concat rfl owner
      have wrappedRead := wrappedOwnerAt_append (owner ++ ['.']) rest tail
      rw [List.append_cons] at split noParenthesis limit
      rw [← List.append_assoc, ← split, ← byteLength_append, ← limit, behind] at wrappedRead
      apply Slicing.run_bind_of_map wrappedRead
      rintro ⟨wrapped, after⟩ wrappedRead
      cases wrapped with
      | none =>
          obtain ⟨-, rfl⟩ := wrappedOwner_eq_none_iff.1 wrappedRead
          rw [List.append_assoc] at split
          rw [List.mem_append, not_or] at noParenthesis
          have read := parseMemberAt_eq _ _ split noParenthesis.1 (some owner)
          rwa [behind] at read
      | some other => rfl

/-! ### Faults -/

/-- The first segment is checked before the others. -/
theorem checkSegments_cons_failsWithin {offset : Nat} {segment rest : List Char}
    {segments : List (List Char)}
    (others : FailsWithin offset (segment ++ rest)
      (checkSegments (offset + byteLength segment + 1) segments)) :
    FailsWithin offset (segment ++ rest) (checkSegments offset (segment :: segments)) := by
  rw [checkSegments]
  split_ifs
  · exact .error_start _
  · split
    · exact (FailsWithin.error_takeWhile isNameChar segment _).before rest
    · exact others

theorem checkSegments_failsWithin (offset : Nat) (segments : List (List Char)) :
    FailsWithin offset (['.'].intercalate segments) (checkSegments offset segments) := by
  induction segments generalizing offset with
  | nil => exact .ok _
  | cons segment segments ih =>
      cases segments with
      | nil =>
          have alone : ['.'].intercalate [segment] = segment ++ [] := by simp [List.intercalate]
          rw [alone]
          exact checkSegments_cons_failsWithin (.ok _)
      | cons next segments =>
          rw [List.intercalate_cons_cons, List.append_assoc]
          exact checkSegments_cons_failsWithin (.behind segment (.behind ['.'] (ih _)))

theorem dottedOwner_failsWithin (head : List Char) : FailsWithin 0 head (dottedOwner head) := by
  rw [dottedOwner]
  split
  · exact .ok _
  · rename_i owner rest found
    obtain ⟨rfl, -⟩ := splitLast?_eq_some.1 found
    have checked := checkSegments_failsWithin 0 (splitAll '.' owner)
    rw [splitAll_eq_splitOn, List.intercalate_splitOn] at checked
    rw [splitAll_eq_splitOn]
    exact (checked.before _).map _

theorem wrappedOwner_failsWithin (offset : Nat) (head : List Char) :
    FailsWithin offset head (wrappedOwner offset head) := by
  rw [wrappedOwner]
  split
  · exact .ok _
  · rename_i body rest found
    obtain ⟨rfl, -⟩ := splitFirst?_eq_some.1 found
    split_ifs with empty
    · exact .error_start _
    · split
      · exact ((FailsWithin.error_takeWhile _ body _).before (';' :: rest)).behind ['L']
      · exact .ok _
  · rename_i before rest _ found
    obtain ⟨rfl, -⟩ := splitFirst?_eq_some.1 found
    exact .error before _ _

theorem scanName_failsWithin (offset : Nat) (cs : List Char) :
    FailsWithin offset cs (scanName offset cs) := by
  unfold scanName
  split
  · split_ifs
    · exact .ok _
    · exact .ok _
    · exact .error_start _
  · exact .ok _

theorem scanQuantifier_failsWithin (offset : Nat) (cs : List Char) :
    FailsWithin offset cs (scanQuantifier offset cs) := by
  unfold scanQuantifier
  split
  · exact .ok _
  · exact .ok _
  · split
    · exact .error_start _
    · exact .ok _
  · exact .ok _

theorem scanDescriptor_failsWithin (offset : Nat) (cs : List Char) :
    FailsWithin offset cs (scanDescriptor offset cs) := by
  unfold scanDescriptor
  split
  · exact .ok _
  · split
    · exact .ok _
    · exact .error_start _
  · exact .error_start _

theorem parseMember_failsWithin (raw : String) (owner : Option (List Char)) (offset : Nat)
    (cs : List Char) : FailsWithin offset cs (parseMember raw owner offset cs) := by
  rw [parseMember]
  apply (scanName_failsWithin offset cs).bind
  rintro ⟨name, afterName⟩ nameRead
  obtain ⟨-, rfl⟩ := scanName_sound nameRead
  refine .behind name ?_
  apply (scanQuantifier_failsWithin _ afterName).bind
  rintro ⟨token, afterToken⟩ tokenRead
  obtain rfl := scanQuantifier_sound tokenRead
  refine ((Quantifier.parse_failsWithin token).mapError _ |>.before afterToken).bind fun _ _ => ?_
  exact ((scanDescriptor_failsWithin _ afterToken).behind token).bind fun _ _ => .ok _

/-- A fault is at a boundary of the text. -/
theorem parse_failsWithin (raw : String) : FailsWithin 0 raw.toList (parse raw) := by
  have split : raw.toList = raw.toList.takeWhile (· != '(') ++ raw.toList.dropWhile (· != '(') :=
    List.takeWhile_append_dropWhile.symm
  rw [parse]
  generalize raw.toList.takeWhile (· != '(') = head at *
  generalize raw.toList.dropWhile (· != '(') = tail at *
  rw [split]
  apply ((dottedOwner_failsWithin head).before tail).bind
  rintro ⟨dotted, rest⟩ dottedRead
  cases dotted with
  | none =>
      obtain ⟨-, rfl⟩ := dottedOwner_eq_none_iff.1 dottedRead
      apply ((wrappedOwner_failsWithin 0 rest).before tail).bind
      rintro ⟨wrapped, after⟩ wrappedRead
      cases wrapped with
      | none =>
          obtain ⟨-, rfl⟩ := wrappedOwner_eq_none_iff.1 wrappedRead
          exact parseMember_failsWithin raw none 0 _
      | some owner =>
          obtain ⟨-, rfl⟩ := wrappedOwner_eq_some_iff.1 wrappedRead
          rw [List.append_assoc]
          refine .behind owner ?_
          rw [Nat.zero_add]
          exact parseMember_failsWithin raw _ _ _
  | some owner =>
      obtain ⟨-, -, rfl⟩ := dottedOwner_eq_some_iff.1 dottedRead
      have behind : 0 + byteLength (owner ++ ['.']) = byteLength owner + 1 := by
        rw [Nat.zero_add, byteLength_concat rfl]
      rw [List.append_cons, List.append_assoc]
      refine .behind (owner ++ ['.']) ?_
      rw [behind]
      apply ((wrappedOwner_failsWithin _ rest).before tail).bind
      rintro ⟨wrapped, after⟩ wrappedRead
      cases wrapped with
      | none =>
          obtain ⟨-, rfl⟩ := wrappedOwner_eq_none_iff.1 wrappedRead
          exact parseMember_failsWithin raw _ _ _
      | some other => exact .error_start _

/-! ### Texts from outside -/

/-- An error that names a text unchanged and points at a boundary of it. -/
structure PointsInto (e : SyntaxError) (raw : String) : Prop where
  raw_eq : e.raw = raw
  position_le : e.position ≤ raw.utf8ByteSize
  boundary : (⟨e.position⟩ : String.Pos.Raw).IsValid raw

theorem pointsInto_of_failsWithin {α φ : Type} {raw : String} {x : Except (Nat × φ) α}
    (h : FailsWithin 0 raw.toList x) (report : φ → Fault) {e : SyntaxError}
    (failed : x.mapError (fun located => ⟨raw, located.1, report located.2⟩) = .error e) :
    PointsInto e raw := by
  cases x with
  | ok a => cases failed
  | error located =>
      obtain ⟨n, isOffset, same⟩ := h located rfl
      rw [Nat.zero_add] at same
      cases failed
      rw [← same] at isOffset
      exact ⟨rfl, isOffset.le.trans_eq (byteLength_toList raw), isOffset_iff_isValid.1 isOffset⟩

/-- Whatever the text is, the readers of specifiers, quantifiers, signatures and descriptors come to
an end, and every slice that they take is between boundaries of the text in order: the readers that
slice have results, and the same as the others.  A text that is no specifier or no quantifier is
reported unchanged, with a boundary of it. -/
theorem parse_at_boundaries (raw : String) :
    ((parseAt raw).run = some (parse raw) ∧
        (Quantifier.parseAt raw.toList).run = some (Quantifier.parse raw.toList) ∧
        (Signature.parseAt raw.toList).run = some (Signature.parse raw.toList) ∧
        (Descriptor.parseAt raw.toList).run = some (Descriptor.parse raw.toList)) ∧
      (∀ e, parseText raw = .error e → PointsInto e raw) ∧
      ∀ e, Quantifier.parseText raw = .error e → PointsInto e raw := by
  refine ⟨⟨?_, ?_, ?_, ?_⟩, ?_, ?_⟩
  · exact parseAt_eq raw
  · exact Quantifier.parseAt_eq raw.toList
  · exact Signature.parseAt_eq raw.toList
  · exact Descriptor.parseAt_eq raw.toList
  · intro e failed
    exact pointsInto_of_failsWithin (parse_failsWithin raw) id failed
  · intro e failed
    exact pointsInto_of_failsWithin (Quantifier.parse_failsWithin raw.toList) .quantifier failed

/-- Faults behind a character of two bytes, and in front of one. -/
theorem parse_at_boundaries_accent :
    (parseText "é\x7b2,x\x7d" =
        .error ⟨"é\x7b2,x\x7d", 5, .quantifier (.notANumber ['x'])⟩ ∧
      PointsInto ⟨"é\x7b2,x\x7d", 5, .quantifier (.notANumber ['x'])⟩ "é\x7b2,x\x7d") ∧
    Quantifier.parseText "\x7bé\x7d" =
        .error ⟨"\x7bé\x7d", 1, .quantifier (.notANumber ['é'])⟩ ∧
      PointsInto ⟨"\x7bé\x7d", 1, .quantifier (.notANumber ['é'])⟩ "\x7bé\x7d" := by
  have noBound : parseText "é\x7b2,x\x7d" =
      .error ⟨"é\x7b2,x\x7d", 5, .quantifier (.notANumber ['x'])⟩ := by
    decide +kernel
  have noNumber : Quantifier.parseText "\x7bé\x7d" =
      .error ⟨"\x7bé\x7d", 1, .quantifier (.notANumber ['é'])⟩ := by
    decide +kernel
  exact ⟨⟨noBound, (parse_at_boundaries _).2.1 _ noBound⟩,
    noNumber, (parse_at_boundaries _).2.2 _ noNumber⟩

end MixinIndex.Specifier
