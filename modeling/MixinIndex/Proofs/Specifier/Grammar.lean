import MixinIndex.Proofs.Quantifier.Grammar
import MixinIndex.Proofs.Signature.Grammar
import MixinIndex.Specifier.Parser

/-!
# The grammar of specifiers

A specifier is written as an owner, a name, a quantifier and a descriptor, in this order and each
possibly absent.  The reader accepts the texts that can be cut into such pieces and no others, there
is only one way to cut a text, and the parts of the specifier are what the pieces stand for.

## Main definitions

* `Specifier.IsDotted`, `Specifier.IsWrapped`: the two notations of an owner
* `Specifier.IsOwner`, `Specifier.IsName`, `Specifier.IsDescriptor`: a piece and what it stands for
* `Specifier.Pieces`: the four pieces, and `Pieces.Spells` relates them to a text and a specifier

## Main statements

* `Specifier.parseMember_eq_ok_iff`: what is read after the owner
* `Specifier.parse_eq_ok_iff`: a text is read as the specifier that its pieces spell
* `Specifier.Pieces.Spells.unique`: a text and its specifier determine the pieces
* `Specifier.parseText_eq_ok_iff`: the grammar as a whole

## Design notes

The pieces are told apart by separators: a dot or semicolon before the first parenthesis belongs to
the owner, and no name goes on with the first character of a quantifier or descriptor.  Where the
reader cuts is therefore the only place where a text can be cut.
-/

namespace MixinIndex.Specifier

open Text

/-! ### The pieces of a text -/

/-- A text of name characters, and at least one. -/
def IsIdentifier (cs : List Char) : Prop := cs ≠ [] ∧ ∀ c ∈ cs, isNameChar c = true

instance (cs : List Char) : Decidable (IsIdentifier cs) :=
  decidable_of_iff (cs ≠ [] ∧ cs.all isNameChar = true) (by rw [List.all_eq_true, IsIdentifier])

/-- An owner as dotted segments, without the dot that ends it. -/
def IsDotted (owner : List Char) : Prop :=
  ∃ segments, segments ≠ [] ∧ (∀ segment ∈ segments, IsIdentifier segment) ∧
    owner = ['.'].intercalate segments

/-- An owner in the notation `L…;`. -/
def IsWrapped (owner : List Char) : Prop :=
  ∃ body, body ≠ [] ∧ (∀ c ∈ body, isNameChar c = true ∨ c = '/') ∧ owner = 'L' :: (body ++ [';'])

/-- How an owner is written, possibly absent, and the owner. -/
inductive IsOwner : List Char → Option TypeName → Prop
  | absent : IsOwner [] none
  | dotted {owner : List Char} (isDotted : IsDotted owner) :
      IsOwner (owner ++ ['.']) (some (.ofText (String.ofList owner)))
  | wrapped {owner : List Char} (isWrapped : IsWrapped owner) :
      IsOwner owner (some (.ofText (String.ofList owner)))

/-- How a name is written, possibly absent, and the name. -/
inductive IsName : List Char → Option String → Prop
  | absent : IsName [] none
  | identifier {name : List Char} (isIdentifier : IsIdentifier name) :
      IsName name (some (String.ofList name))
  | constructor : IsName constructorName.toList (some constructorName)
  | staticInitializer : IsName staticInitializerName.toList (some staticInitializerName)

/-- How a descriptor is written, possibly absent, and the descriptor. -/
inductive IsDescriptor : List Char → Option Descriptor → Prop
  | absent : IsDescriptor [] none
  | present {d : Descriptor} (wellFormed : d.IsWellFormed) : IsDescriptor d.chars (some d)

/-- The pieces of a specifier's text. -/
@[ext]
structure Pieces where
  owner : List Char
  name : List Char
  quantifier : List Char
  descriptor : List Char

/-- The pieces of a text, each of which is a writing of a part of the specifier. -/
structure Pieces.Spells (p : Pieces) (raw : String) (spec : Specifier) : Prop where
  text : raw.toList = p.owner ++ (p.name ++ (p.quantifier ++ p.descriptor))
  owner : IsOwner p.owner spec.owner
  name : IsName p.name spec.name
  quantifier : Quantifier.IsToken p.quantifier spec.quantifier
  descriptor : IsDescriptor p.descriptor spec.descriptor
  raw : spec.raw = raw

/-! ### Owners -/

theorem checkSegments_eq_ok_iff {offset : Nat} {segments : List (List Char)} :
    checkSegments offset segments = .ok () ↔ ∀ segment ∈ segments, IsIdentifier segment := by
  induction segments generalizing offset with
  | nil => simp [checkSegments]
  | cons segment segments ih =>
      rw [checkSegments, List.forall_mem_cons]
      split_ifs with empty
      · simp [IsIdentifier, empty]
      · split
        · rename_i c cs rest
          have notAll : ¬ ∀ c ∈ segment, isNameChar c = true := by
            rw [← List.dropWhile_eq_nil_iff, rest]
            simp
          simp [IsIdentifier, notAll]
        · rename_i none
          have isIdentifier : IsIdentifier segment := ⟨empty, List.dropWhile_eq_nil_iff.1 none⟩
          simp [ih, isIdentifier]

/-- The segments are those between the dots, so the reader's check is the grammar's. -/
theorem isDotted_iff {offset : Nat} {owner : List Char} :
    checkSegments offset (splitAll '.' owner) = .ok () ↔ IsDotted owner := by
  rw [checkSegments_eq_ok_iff, splitAll_eq_splitOn]
  constructor
  · intro identifiers
    exact ⟨owner.splitOn '.', List.splitOn_ne_nil _ _, identifiers,
      (List.intercalate_splitOn '.').symm⟩
  · rintro ⟨segments, nonempty, identifiers, rfl⟩
    rw [List.splitOn_intercalate '.' ?_ nonempty]
    · exact identifiers
    · intro segment mem dot
      have := (identifiers segment mem).2 '.' dot
      exact absurd this (by decide)

theorem dottedOwner_eq_none_iff {cs rest : List Char} :
    dottedOwner cs = .ok (none, rest) ↔ '.' ∉ cs ∧ rest = cs := by
  rw [dottedOwner]
  constructor
  · intro read
    split at read
    · rename_i none
      cases read
      exact ⟨splitLast?_eq_none.1 none, rfl⟩
    · obtain ⟨-, -, same⟩ := Except.map_eq_ok_iff.1 read
      cases same
  · rintro ⟨noDot, rfl⟩
    rw [splitLast?_eq_none.2 noDot]

theorem dottedOwner_eq_some_iff {cs owner rest : List Char} :
    dottedOwner cs = .ok (some owner, rest) ↔
      IsDotted owner ∧ '.' ∉ rest ∧ cs = owner ++ '.' :: rest := by
  rw [dottedOwner]
  constructor
  · intro read
    split at read
    · cases read
    · rename_i owner after found
      obtain ⟨⟨⟩, checked, same⟩ := Except.map_eq_ok_iff.1 read
      cases same
      obtain ⟨split, noDot⟩ := splitLast?_eq_some.1 found
      exact ⟨isDotted_iff.1 checked, noDot, split⟩
  · rintro ⟨isDotted, noDot, rfl⟩
    rw [splitLast?_eq_some.2 ⟨rfl, noDot⟩]
    exact Except.map_eq_ok_iff.2 ⟨(), isDotted_iff.2 isDotted, rfl⟩

theorem wrappedOwner_eq_none_iff {offset : Nat} {cs rest : List Char} :
    wrappedOwner offset cs = .ok (none, rest) ↔ ';' ∉ cs ∧ rest = cs := by
  rw [wrappedOwner]
  constructor
  · intro read
    split at read
    · rename_i none
      cases read
      exact ⟨splitFirst?_eq_none.1 none, rfl⟩
    · split_ifs at read
      split at read <;> cases read
    · cases read
  · rintro ⟨noSemicolon, rfl⟩
    rw [splitFirst?_eq_none.2 noSemicolon]

theorem wrappedOwner_eq_some_iff {offset : Nat} {cs owner rest : List Char} :
    wrappedOwner offset cs = .ok (some owner, rest) ↔ IsWrapped owner ∧ cs = owner ++ rest := by
  rw [wrappedOwner]
  constructor
  · intro read
    split at read
    · cases read
    · rename_i body after found
      obtain ⟨rfl, -⟩ := splitFirst?_eq_some.1 found
      split_ifs at read with empty
      split at read
      · cases read
      · rename_i checked
        cases read
        have plain := List.dropWhile_eq_nil_iff.1 checked
        exact ⟨⟨body, empty, fun c mem => by simpa using plain c mem, rfl⟩, by simp⟩
    · cases read
  · rintro ⟨⟨body, nonempty, plain, rfl⟩, rfl⟩
    have noSemicolon : ';' ∉ 'L' :: body := by
      rintro (_ | ⟨_, mem⟩)
      rcases plain ';' mem with isName | isSlash
      · exact absurd isName (by decide)
      · exact absurd isSlash (by decide)
    have found : splitFirst? ';' ('L' :: (body ++ [';']) ++ rest) = some ('L' :: body, rest) :=
      splitFirst?_eq_some.2 ⟨by simp, noSemicolon⟩
    have checked : body.dropWhile (fun c => isNameChar c || c == '/') = [] := by
      rw [List.dropWhile_eq_nil_iff]
      intro c mem
      simpa using plain c mem
    rw [found]
    simp [nonempty, checked]

/-! ### Name, quantifier and descriptor -/

theorem nonEmpty_of_ne_nil {cs : List Char} (h : cs ≠ []) : nonEmpty cs = some (String.ofList cs) :=
  if_neg h

/-- What is taken from the start of a text as its name is a name. -/
theorem scanName_sound {offset : Nat} {cs name rest : List Char}
    (h : scanName offset cs = .ok (name, rest)) :
    IsName name (nonEmpty name) ∧ cs = name ++ rest := by
  have special {text : String} (isPrefix : text.toList.isPrefixOf cs = true) :
      cs = text.toList ++ cs.drop text.length := by
    obtain ⟨after, rfl⟩ := List.isPrefixOf_iff_prefix.1 isPrefix
    simp [String.length_toList]
  unfold scanName at h
  split at h
  · split_ifs at h with isConstructor isInitializer
    · cases h
      exact ⟨.constructor, special isConstructor⟩
    · cases h
      exact ⟨.staticInitializer, special isInitializer⟩
  · cases h
    refine ⟨?_, List.takeWhile_append_dropWhile.symm⟩
    by_cases empty : cs.takeWhile isNameChar = []
    · rw [empty]
      exact .absent
    · rw [nonEmpty_of_ne_nil empty]
      exact .identifier ⟨empty, fun c mem => List.mem_takeWhile_imp mem⟩

theorem IsName.nonEmpty {piece : List Char} {name : Option String} (h : IsName piece name) :
    nonEmpty piece = name := by
  cases h with
  | absent => rfl
  | identifier isIdentifier => exact nonEmpty_of_ne_nil isIdentifier.1
  | constructor => decide
  | staticInitializer => decide

/-- Characters with which no name goes on are left to the rest. -/
theorem scanName_of_isNameChar {offset : Nat} {name rest : List Char}
    (isName : ∀ c ∈ name, isNameChar c = true)
    (stops : ∀ c ∈ rest.head?, isNameChar c = false ∧ c ≠ '<') :
    scanName offset (name ++ rest) = .ok (name, rest) := by
  obtain ⟨taken, left⟩ := span_append isName fun c head => (stops c head).1
  unfold scanName
  split
  · rename_i tail split
    cases name with
    | nil => exact absurd rfl (stops '<' (by simpa using congrArg List.head? split)).2
    | cons c name =>
        obtain ⟨rfl, -⟩ := List.cons.inj split
        exact absurd (isName '<' List.mem_cons_self) (by decide)
  · rw [taken, left]

/-- A name is taken whole, if a quantifier, a descriptor or nothing follows. -/
theorem scanName_complete {offset : Nat} {piece rest : List Char} {name : Option String}
    (h : IsName piece name) (stops : ∀ c ∈ rest.head?, c ∈ ['*', '+', '{', '(']) :
    scanName offset (piece ++ rest) = .ok (piece, rest) := by
  have noName : ∀ c ∈ rest.head?, isNameChar c = false ∧ c ≠ '<' := by
    intro c head
    have mark := stops c head
    simp only [List.mem_cons, List.not_mem_nil, or_false] at mark
    rcases mark with rfl | rfl | rfl | rfl <;> decide
  have constructorChars : constructorName.toList = ['<', 'i', 'n', 'i', 't', '>'] := by decide
  have initializerChars :
      staticInitializerName.toList = ['<', 'c', 'l', 'i', 'n', 'i', 't', '>'] := by decide
  cases h with
  | absent => exact scanName_of_isNameChar (by simp) noName
  | identifier isIdentifier => exact scanName_of_isNameChar isIdentifier.2 noName
  | constructor => simp [scanName, constructorChars, ← String.length_toList]
  | staticInitializer =>
      simp [scanName, constructorChars, initializerChars, ← String.length_toList]

/-- The scanner only cuts; what it took may still be no token. -/
theorem scanQuantifier_sound {offset : Nat} {cs token rest : List Char}
    (h : scanQuantifier offset cs = .ok (token, rest)) : cs = token ++ rest := by
  unfold scanQuantifier at h
  split at h
  · cases h
    rfl
  · cases h
    rfl
  · split at h
    · cases h
    · rename_i inner after found
      obtain ⟨rfl, -⟩ := splitFirst?_eq_some.1 found
      cases h
      simp
  · cases h
    rfl

/-- A token is taken whole, if a descriptor or nothing follows. -/
theorem scanQuantifier_complete {offset : Nat} {token rest : List Char} {q : Quantifier}
    (h : Quantifier.IsToken token q) (stops : ∀ c ∈ rest.head?, c = '(') :
    scanQuantifier offset (token ++ rest) = .ok (token, rest) := by
  cases h with
  | absent =>
      cases rest with
      | nil => rfl
      | cons c rest =>
          obtain rfl := stops c rfl
          rfl
  | star => rfl
  | plus => rfl
  | @braces inner first last minimum bounds =>
      have noBrace : '}' ∉ inner := by
        intro mem
        exact absurd (bounds.mem '}' mem) (by decide)
      have found : splitFirst? '}' (inner ++ '}' :: rest) = some (inner, rest) :=
        splitFirst?_eq_some.2 ⟨rfl, noBrace⟩
      simp [scanQuantifier, found]

theorem scanDescriptor_eq_ok_iff {offset : Nat} {cs : List Char} {d : Option Descriptor} :
    scanDescriptor offset cs = .ok d ↔ IsDescriptor cs d := by
  constructor
  · intro read
    unfold scanDescriptor at read
    split at read
    · cases read
      exact .absent
    · split at read
      · rename_i descriptor parsed
        cases read
        obtain ⟨wellFormed, same⟩ := Descriptor.parse_eq_ok_iff.1 parsed
        rw [same]
        exact .present wellFormed
      · cases read
    · cases read
  · intro isDescriptor
    cases isDescriptor with
    | absent => rfl
    | @present d wellFormed =>
        have parsed := Descriptor.parse_eq_ok_iff.2 ⟨wellFormed, rfl⟩
        rw [Descriptor.chars] at parsed ⊢
        simp [scanDescriptor, parsed]

/-- A descriptor starts with its parenthesis. -/
theorem IsDescriptor.head {descriptor : List Char} {d : Option Descriptor}
    (h : IsDescriptor descriptor d) : ∀ c ∈ descriptor.head?, c = '(' := by
  cases h with
  | absent => simp
  | present => simp [Descriptor.chars]

theorem IsDescriptor.exists_of_ne_nil {descriptor : List Char} {d : Option Descriptor}
    (h : IsDescriptor descriptor d) (written : descriptor ≠ []) :
    ∃ given, d = some given ∧ given.IsWellFormed ∧ descriptor = given.chars := by
  cases h with
  | absent => exact absurd rfl written
  | present wellFormed => exact ⟨_, rfl, wellFormed, rfl⟩

/-- No name goes on with a quantifier or a descriptor. -/
theorem head_of_isToken {token descriptor : List Char} {q : Quantifier} {d : Option Descriptor}
    (isToken : Quantifier.IsToken token q) (isDescriptor : IsDescriptor descriptor d) :
    ∀ c ∈ (token ++ descriptor).head?, c ∈ ['*', '+', '{', '('] := by
  intro c head
  cases isToken with
  | absent =>
      obtain rfl := isDescriptor.head c head
      decide
  | star | plus | braces =>
      obtain rfl := Option.some.inj head
      decide

/-! ### Whole texts -/

/-- What is read after the owner. -/
theorem parseMember_eq_ok_iff {raw : String} {owner : Option (List Char)} {offset : Nat}
    {cs : List Char} {spec : Specifier} :
    parseMember raw owner offset cs = .ok spec ↔
      ∃ name quantifier descriptor, IsName name spec.name ∧
        Quantifier.IsToken quantifier spec.quantifier ∧ IsDescriptor descriptor spec.descriptor ∧
        cs = name ++ (quantifier ++ descriptor) ∧ spec.raw = raw ∧
        spec.owner = owner.map fun cs => .ofText (String.ofList cs) := by
  rw [parseMember]
  constructor
  · intro read
    obtain ⟨⟨name, afterName⟩, nameRead, read⟩ := Except.bind_eq_ok_iff.1 read
    obtain ⟨⟨token, afterToken⟩, tokenRead, read⟩ := Except.bind_eq_ok_iff.1 read
    obtain ⟨quantifier, quantifierRead, read⟩ := Except.bind_eq_ok_iff.1 read
    obtain ⟨descriptor, descriptorRead, read⟩ := Except.bind_eq_ok_iff.1 read
    obtain ⟨isName, textSplit⟩ := scanName_sound nameRead
    have memberSplit := scanQuantifier_sound tokenRead
    cases read
    exact ⟨name, token, afterToken, isName,
      Quantifier.parse_eq_ok_iff.1 (Except.mapError_eq_ok_iff.1 quantifierRead),
      scanDescriptor_eq_ok_iff.1 descriptorRead, by rw [textSplit, memberSplit], rfl, rfl⟩
  · rintro ⟨name, token, descriptor, isName, isToken, isDescriptor, rfl, rfl, sameOwner⟩
    refine Except.bind_eq_ok_iff.2 ⟨_, scanName_complete isName ?_, ?_⟩
    · exact head_of_isToken isToken isDescriptor
    refine Except.bind_eq_ok_iff.2 ⟨_, scanQuantifier_complete isToken ?_, ?_⟩
    · exact isDescriptor.head
    refine Except.bind_eq_ok_iff.2
      ⟨_, Except.mapError_eq_ok_iff.2 (Quantifier.parse_eq_ok_iff.2 isToken), ?_⟩
    refine Except.bind_eq_ok_iff.2 ⟨_, scanDescriptor_eq_ok_iff.2 isDescriptor, ?_⟩
    rw [← sameOwner, isName.nonEmpty]
    rfl

/-- Neither a name nor a quantifier holds a separator. -/
theorem notMem_of_isName {name token : List Char} {n : Option String} {q : Quantifier}
    (isName : IsName name n) (isToken : Quantifier.IsToken token q) {c : Char}
    (separator : c ∈ ['(', '.', ';']) : c ∉ name ++ token := by
  obtain ⟨noName, noConstructor, noInitializer, noDigit, noMark⟩ : isNameChar c = false ∧
      c ∉ constructorName.toList ∧ c ∉ staticInitializerName.toList ∧ c.isDigit = false ∧
        c ∉ ['*', '+', '{', '}', ','] := by
    simp only [List.mem_cons, List.not_mem_nil, or_false] at separator
    rcases separator with rfl | rfl | rfl <;> decide
  intro mem
  rcases List.mem_append.1 mem with mem | mem
  · cases isName with
    | absent => cases mem
    | identifier isIdentifier =>
        have := isIdentifier.2 c mem
        simp_all
    | constructor => exact noConstructor mem
    | staticInitializer => exact noInitializer mem
  · rcases isToken.mem c mem with digit | mark
    · simp_all
    · exact noMark mark

/-- What is put between separators is all that is there besides them. -/
theorem mem_intercalate {sep c : Char} {segments : List (List Char)}
    (h : c ∈ [sep].intercalate segments) : c = sep ∨ ∃ segment ∈ segments, c ∈ segment := by
  induction segments with
  | nil => simp [List.intercalate] at h
  | cons segment segments ih =>
      cases segments with
      | nil => exact .inr ⟨segment, List.mem_cons_self, by simpa [List.intercalate] using h⟩
      | cons next segments =>
          rw [List.intercalate_cons_cons, List.append_assoc, List.mem_append, List.mem_append] at h
          rcases h with mem | mem | mem
          · exact .inr ⟨segment, List.mem_cons_self, mem⟩
          · exact .inl (List.mem_singleton.1 mem)
          · rcases ih mem with same | ⟨other, among, mem⟩
            · exact .inl same
            · exact .inr ⟨other, List.mem_cons_of_mem segment among, mem⟩

theorem IsDotted.notMem {owner : List Char} (h : IsDotted owner) : '(' ∉ owner := by
  obtain ⟨segments, -, identifiers, rfl⟩ := h
  intro mem
  rcases mem_intercalate mem with same | ⟨segment, among, mem⟩
  · exact absurd same (by decide)
  · exact absurd ((identifiers segment among).2 '(' mem) (by decide)

theorem IsWrapped.notMem {owner : List Char} (h : IsWrapped owner) {c : Char}
    (separator : c ∈ ['(', '.']) : c ∉ owner := by
  obtain ⟨noName, noSlash, noLead, noEnd⟩ :
      isNameChar c = false ∧ c ≠ '/' ∧ c ≠ 'L' ∧ c ≠ ';' := by
    simp only [List.mem_cons, List.not_mem_nil, or_false] at separator
    rcases separator with rfl | rfl <;> decide
  obtain ⟨body, -, plain, rfl⟩ := h
  have noBody : c ∉ body := by
    intro mem
    simpa [noName, noSlash] using plain c mem
  simp [noLead, noBody, noEnd]

theorem IsOwner.notMem {piece : List Char} {owner : Option TypeName} (h : IsOwner piece owner) :
    '(' ∉ piece := by
  cases h with
  | absent => simp
  | dotted isDotted => simpa using isDotted.notMem
  | wrapped isWrapped => exact isWrapped.notMem (by decide)

/-- The text before a descriptor is what precedes the first parenthesis. -/
theorem span_of_isDescriptor {before descriptor : List Char} {d : Option Descriptor}
    (noParenthesis : '(' ∉ before) (isDescriptor : IsDescriptor descriptor d) :
    (before ++ descriptor).takeWhile (· != '(') = before ∧
      (before ++ descriptor).dropWhile (· != '(') = descriptor :=
  span_ne noParenthesis isDescriptor.head

/-- The owner of a text that is read, and what is read after it. -/
theorem exists_owner_of_parse {raw : String} {spec : Specifier} (h : parse raw = .ok spec) :
    ∃ piece owner offset rest, raw.toList = piece ++ rest ∧
      IsOwner piece (owner.map fun cs => .ofText (String.ofList cs)) ∧
      parseMember raw owner offset rest = .ok spec := by
  obtain ⟨⟨dotted, rest⟩, dottedRead, afterDotted⟩ := Except.bind_eq_ok_iff.1 h
  obtain ⟨⟨wrapped, after⟩, wrappedRead, member⟩ := Except.bind_eq_ok_iff.1 afterDotted
  have split : raw.toList = raw.toList.takeWhile (· != '(') ++ raw.toList.dropWhile (· != '(') :=
    List.takeWhile_append_dropWhile.symm
  cases dotted with
  | none =>
      obtain ⟨-, rfl⟩ := dottedOwner_eq_none_iff.1 dottedRead
      cases wrapped with
      | none =>
          obtain ⟨-, rfl⟩ := wrappedOwner_eq_none_iff.1 wrappedRead
          exact ⟨[], none, _, _, split, .absent, member⟩
      | some owner =>
          obtain ⟨isWrapped, head⟩ := wrappedOwner_eq_some_iff.1 wrappedRead
          refine ⟨owner, some owner, _, _, ?_, .wrapped isWrapped, member⟩
          rw [head, List.append_assoc] at split
          exact split
  | some owner =>
      obtain ⟨isDotted, -, head⟩ := dottedOwner_eq_some_iff.1 dottedRead
      cases wrapped with
      | none =>
          obtain ⟨-, rfl⟩ := wrappedOwner_eq_none_iff.1 wrappedRead
          refine ⟨owner ++ ['.'], some owner, _, _, ?_, .dotted isDotted, member⟩
          rw [head] at split
          simpa using split
      | some other => cases member

/-- A text without an owner is read from its start. -/
theorem parse_eq_parseMember {raw : String} {head tail : List Char}
    (taken : raw.toList.takeWhile (· != '(') = head) (left : raw.toList.dropWhile (· != '(') = tail)
    (noDot : '.' ∉ head) (noSemicolon : ';' ∉ head) :
    parse raw = parseMember raw none 0 (head ++ tail) := by
  have undotted : dottedOwner head = .ok (none, head) := dottedOwner_eq_none_iff.2 ⟨noDot, rfl⟩
  have unwrapped : wrappedOwner 0 head = .ok (none, head) :=
    wrappedOwner_eq_none_iff.2 ⟨noSemicolon, rfl⟩
  rw [parse, taken, left]
  simp only [undotted, unwrapped, bind, Except.bind]

/-- A text that starts with an owner is read from there on, if no separator of an owner follows
before the first parenthesis. -/
theorem parse_of_isOwner {raw : String} {piece head tail : List Char} {denoted : Option TypeName}
    (isOwner : IsOwner piece denoted) (taken : raw.toList.takeWhile (· != '(') = piece ++ head)
    (left : raw.toList.dropWhile (· != '(') = tail) (noDot : '.' ∉ head)
    (noSemicolon : ';' ∉ head) :
    ∃ owner offset, denoted = owner.map (fun cs => .ofText (String.ofList cs)) ∧
      parse raw = parseMember raw owner offset (head ++ tail) := by
  have unwrapped (offset : Nat) : wrappedOwner offset head = .ok (none, head) :=
    wrappedOwner_eq_none_iff.2 ⟨noSemicolon, rfl⟩
  -- The last dot is found first, so the notation `L…;` is only tried where no dot is left.
  cases isOwner with
  | absent => exact ⟨none, 0, rfl, parse_eq_parseMember taken left noDot noSemicolon⟩
  | @dotted owner isDotted =>
      have dotted : dottedOwner (owner ++ ['.'] ++ head) = .ok (some owner, head) :=
        dottedOwner_eq_some_iff.2 ⟨isDotted, noDot, by simp⟩
      refine ⟨some owner, byteLength owner + 1, rfl, ?_⟩
      rw [parse, taken, left]
      simp only [dotted, unwrapped, bind, Except.bind]
  | @wrapped owner isWrapped =>
      have undotted : dottedOwner (piece ++ head) = .ok (none, piece ++ head) := by
        refine dottedOwner_eq_none_iff.2 ⟨?_, rfl⟩
        rw [List.mem_append, not_or]
        exact ⟨isWrapped.notMem (by decide), noDot⟩
      have wrapped (offset : Nat) : wrappedOwner offset (piece ++ head) = .ok (some piece, head) :=
        wrappedOwner_eq_some_iff.2 ⟨isWrapped, rfl⟩
      refine ⟨some piece, byteLength piece, rfl, ?_⟩
      rw [parse, taken, left]
      simp only [undotted, wrapped, bind, Except.bind]

/-- The first parenthesis of a text is that of the descriptor. -/
theorem Pieces.Spells.span {p : Pieces} {raw : String} {spec : Specifier} (h : p.Spells raw spec) :
    raw.toList.takeWhile (· != '(') = p.owner ++ (p.name ++ p.quantifier) ∧
      raw.toList.dropWhile (· != '(') = p.descriptor := by
  have noParenthesis : '(' ∉ p.owner ++ (p.name ++ p.quantifier) := by
    rw [List.mem_append, not_or]
    exact ⟨h.owner.notMem, notMem_of_isName h.name h.quantifier (by decide)⟩
  have split : raw.toList = p.owner ++ (p.name ++ p.quantifier) ++ p.descriptor := by
    simp [h.text]
  rw [split]
  exact span_of_isDescriptor noParenthesis h.descriptor

/-- A text is read as a specifier exactly if it can be cut into pieces that spell it. -/
theorem parse_eq_ok_iff {raw : String} {spec : Specifier} :
    parse raw = .ok spec ↔ ∃ p : Pieces, p.Spells raw spec := by
  constructor
  · intro read
    obtain ⟨piece, owner, offset, rest, split, isOwner, member⟩ := exists_owner_of_parse read
    obtain ⟨name, token, descriptor, isName, isToken, isDescriptor, rfl, sameRaw, sameOwner⟩ :=
      parseMember_eq_ok_iff.1 member
    rw [← sameOwner] at isOwner
    exact ⟨⟨piece, name, token, descriptor⟩, split, isOwner, isName, isToken, isDescriptor, sameRaw⟩
  · rintro ⟨⟨piece, name, token, descriptor⟩, text, isOwner, isName, isToken, isDescriptor, sameRaw⟩
    have noSeparator {c : Char} (separator : c ∈ ['(', '.', ';']) : c ∉ name ++ token :=
      notMem_of_isName isName isToken separator
    have spells : Pieces.Spells ⟨piece, name, token, descriptor⟩ raw spec :=
      ⟨text, isOwner, isName, isToken, isDescriptor, sameRaw⟩
    obtain ⟨taken, left⟩ := spells.span
    obtain ⟨owner, offset, sameOwner, read⟩ :=
      parse_of_isOwner isOwner taken left (noSeparator (by decide)) (noSeparator (by decide))
    rw [read, List.append_assoc]
    exact parseMember_eq_ok_iff.2
      ⟨name, token, descriptor, isName, isToken, isDescriptor, rfl, sameRaw, sameOwner⟩

/-! ### One way to cut a text -/

theorem nonEmpty_inj {cs ds : List Char} (h : nonEmpty cs = nonEmpty ds) : cs = ds := by
  unfold nonEmpty at h
  split_ifs at h with empty other
  · rw [empty, other]
  · simpa using congrArg String.toList (Option.some.inj h)

theorem IsDescriptor.unique {piece other : List Char} {d : Option Descriptor}
    (h : IsDescriptor piece d) (h' : IsDescriptor other d) : piece = other := by
  cases h <;> cases h' <;> rfl

/-- Nothing is lost: a text and the specifier that it spells determine the pieces. -/
theorem Pieces.Spells.unique {p q : Pieces} {raw : String} {spec : Specifier}
    (h : p.Spells raw spec) (h' : q.Spells raw spec) : p = q := by
  have name : p.name = q.name := nonEmpty_inj (h.name.nonEmpty.trans h'.name.nonEmpty.symm)
  have quantifier : p.quantifier = q.quantifier := by
    have tokens := h.quantifier.token_eq.symm.trans h'.quantifier.token_eq
    simpa using congrArg String.toList tokens
  have descriptor : p.descriptor = q.descriptor := h.descriptor.unique h'.descriptor
  -- The other pieces make up the end of the text, so what is left over is the owner.
  have owner : p.owner = q.owner := by
    have text := h.text.symm.trans h'.text
    rw [name, quantifier, descriptor] at text
    exact List.append_cancel_right text
  exact Pieces.ext owner name quantifier descriptor

/-- The reader accepts a text exactly if it is an owner, a name, a quantifier and a descriptor, in
this order and each possibly absent.  There is only one way to cut the text into these pieces, and
the parts of the specifier are what the pieces stand for. -/
theorem parseText_eq_ok_iff (raw : String) :
    (∀ spec, parseText raw = .ok spec ↔ ∃ p : Pieces, p.Spells raw spec) ∧
      ∀ p q : Pieces, ∀ spec spec' : Specifier,
        p.Spells raw spec → q.Spells raw spec' → p = q ∧ spec = spec' := by
  constructor
  · intro spec
    rw [parseText, Except.mapError_eq_ok_iff, parse_eq_ok_iff]
  · intro p q spec spec' spells spells'
    have same : spec = spec' := by
      have read : parse raw = .ok spec := parse_eq_ok_iff.2 ⟨p, spells⟩
      rw [parse_eq_ok_iff.2 ⟨q, spells'⟩] at read
      exact (Except.ok.inj read).symm
    subst same
    exact ⟨spells.unique spells', rfl⟩

theorem parseText_eq_ok_iff_tick :
    parseText "foo.Bar.tick{2,}(I)V" =
      .ok ⟨some ⟨"foo.Bar"⟩, some "tick", some ⟨[⟨"I"⟩], ⟨"V"⟩⟩, ⟨2, none, 2, "{2,}"⟩,
        "foo.Bar.tick{2,}(I)V"⟩ := by
  have isDotted : IsDotted "foo.Bar".toList :=
    ⟨["foo".toList, "Bar".toList], by decide, by decide, by decide⟩
  have bound : Quantifier.IsBound ['2'] 2 :=
    ⟨by decide, List.forall_mem_singleton.2 (by decide), by decide, by decide⟩
  have wellFormed : Descriptor.IsWellFormed ⟨[⟨"I"⟩], ⟨"V"⟩⟩ :=
    ⟨List.forall_mem_singleton.2 ⟨.array 0 (.base (by decide)), by decide⟩, .void⟩
  let pieces : Pieces := ⟨"foo.Bar.".toList, "tick".toList, "{2,}".toList, "(I)V".toList⟩
  exact ((parseText_eq_ok_iff _).1 _).2 ⟨pieces, by decide, .dotted isDotted,
    .identifier (by decide), .braces (.atLeast bound), .present wellFormed, rfl⟩

end MixinIndex.Specifier
