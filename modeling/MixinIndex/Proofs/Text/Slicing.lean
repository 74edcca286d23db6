import Mathlib.Data.List.TakeWhile
import Mathlib.Tactic.SplitIfs
import MixinIndex.Text.Offset
import MixinIndex.Text.Split

/-!
# Slicing at byte offsets

A text can also be taken apart by byte offsets.  Then an offset has to be a boundary: it must
neither lie beyond the end nor inside a character.  Here slicing has no result where this is not so,
and whoever slices has to show that it does not happen.  Scanners may look at single bytes as well;
the characters that they look for are all ASCII, and these are the bytes below `0x80`.

## Main definitions

* `from?`, `slice?`: parts of a text by byte offsets
* `find?`, `findLast?`, `findNot?`: byte offsets of characters
* `bytes`: the UTF-8 form of a text, and `bytesFrom?`, `bytesBetween?` its slices
* `Slicing`: computations that have no result where a slice has none

## Main statements

* `isSome_slice?_iff`: slices are between boundaries in order
* `isOffset_iff_isValid`: boundaries are the valid positions of a string
* `mem_bytes_iff`, `exists_lead`: ASCII characters as bytes
* `Slicing.run_bind`, `Slicing.run_bind_of_map`: one computation after another, beside computations
  without slices
-/

namespace MixinIndex.Text

/-! ### Slices -/

/-- The parts of a text before and after a byte offset, if it is a boundary. -/
def splitAt? : Nat → List Char → Option (List Char × List Char)
  | 0, cs => some ([], cs)
  | _ + 1, [] => none
  | n + 1, c :: cs =>
    if c.utf8Size ≤ n + 1 then
      (splitAt? (n + 1 - c.utf8Size) cs).map fun p => (c :: p.1, p.2)
    else none

/-- A text from a byte offset on. -/
def from? (cs : List Char) (start : Nat) : Option (List Char) := (splitAt? start cs).map (·.2)

/-- A text from one byte offset to another. -/
def slice? (cs : List Char) (start limit : Nat) : Option (List Char) :=
  if start ≤ limit then
    (from? cs start).bind fun rest => (splitAt? (limit - start) rest).map (·.1)
  else none

theorem byteLength_eq_zero {cs : List Char} : byteLength cs = 0 ↔ cs = [] := by
  cases cs with
  | nil => simp
  | cons c cs =>
      have positive := c.utf8Size_pos
      rw [byteLength_cons]
      constructor
      · intro zero
        omega
      · rintro ⟨⟩

theorem byteLength_concat {c : Char} (single : c.utf8Size = 1) (before : List Char) :
    byteLength (before ++ [c]) = byteLength before + 1 := by
  rw [byteLength_append, byteLength_cons, single, byteLength_nil]

theorem splitAt?_append (before after : List Char) :
    splitAt? (byteLength before) (before ++ after) = some (before, after) := by
  induction before with
  | nil => rw [byteLength_nil, splitAt?, List.nil_append]
  | cons c before ih =>
      obtain ⟨n, positive⟩ := Nat.exists_eq_add_one.2 c.utf8Size_pos
      have counted : byteLength (c :: before) = n + byteLength before + 1 := by
        rw [byteLength_cons]
        omega
      have left : n + byteLength before + 1 - c.utf8Size = byteLength before := by omega
      rw [counted, List.cons_append, splitAt?, if_pos (by omega), left, ih, Option.map_some]

/-- A text can be cut at a boundary, and only there. -/
theorem splitAt?_eq_some {n : Nat} {cs before after : List Char} :
    splitAt? n cs = some (before, after) ↔ cs = before ++ after ∧ n = byteLength before := by
  constructor
  · intro cut
    induction cs generalizing n before with
    | nil =>
        cases n with
        | zero =>
            cases cut
            exact ⟨rfl, rfl⟩
        | succ n => cases cut
    | cons c cs ih =>
        cases n with
        | zero =>
            cases cut
            exact ⟨rfl, rfl⟩
        | succ n =>
            rw [splitAt?, Option.ite_none_right_eq_some] at cut
            obtain ⟨fits, cut⟩ := cut
            obtain ⟨⟨inner, rest⟩, cutInner, same⟩ := Option.map_eq_some_iff.1 cut
            cases same
            obtain ⟨rfl, counted⟩ := ih cutInner
            refine ⟨rfl, ?_⟩
            show n + 1 = c.utf8Size + byteLength inner
            omega
  · rintro ⟨rfl, rfl⟩
    exact splitAt?_append before after

theorem from?_append (before after : List Char) :
    from? (before ++ after) (byteLength before) = some after := by
  rw [from?, splitAt?_append, Option.map_some]

/-- A text from behind a character of a single byte. -/
theorem from?_concat {c : Char} (single : c.utf8Size = 1) (before after : List Char) :
    from? (before ++ c :: after) (byteLength before + 1) = some after := by
  rw [← byteLength_concat single, List.append_cons, from?_append]

theorem slice?_append (before part after : List Char) :
    slice? (before ++ (part ++ after)) (byteLength before) (byteLength before + byteLength part) =
      some part := by
  rw [slice?, if_pos (Nat.le_add_right _ _), from?_append, Nat.add_sub_cancel_left,
    Option.bind_some, splitAt?_append, Option.map_some]

/-- What is sliced from a boundary on is what the text goes on with there. -/
theorem slice?_append_eq_some_iff {before rest part : List Char} {limit : Nat} :
    slice? (before ++ rest) (byteLength before) limit = some part ↔
      ∃ after, rest = part ++ after ∧ limit = byteLength before + byteLength part := by
  constructor
  · intro found
    rw [slice?, Option.ite_none_right_eq_some, from?_append, Option.bind_some] at found
    obtain ⟨ordered, sliced⟩ := found
    obtain ⟨⟨_, after⟩, cut, rfl⟩ := Option.map_eq_some_iff.1 sliced
    obtain ⟨split, counted⟩ := splitAt?_eq_some.1 cut
    exact ⟨after, split, (Nat.add_sub_of_le ordered).symm.trans (congrArg _ counted)⟩
  · rintro ⟨after, rfl, rfl⟩
    exact slice?_append before part after

/-- A part behind a character of a single byte. -/
theorem slice?_concat {c : Char} (single : c.utf8Size = 1) (before part after : List Char) :
    slice? (before ++ c :: (part ++ after)) (byteLength before + 1)
      (byteLength before + byteLength (c :: part)) = some part := by
  rw [byteLength_cons, single, ← Nat.add_assoc, ← byteLength_concat single, List.append_cons,
    slice?_append]

/-- A text up to a boundary. -/
theorem slice?_zero (part after : List Char) :
    slice? (part ++ after) 0 (byteLength part) = some part := by
  have sliced := slice?_append [] part after
  rwa [List.nil_append, byteLength_nil, Nat.zero_add] at sliced

/-- A slice is between two boundaries in order. -/
theorem isSome_slice?_iff {cs : List Char} {start limit : Nat} :
    (slice? cs start limit).isSome = true ↔
      start ≤ limit ∧ IsOffset cs start ∧ IsOffset cs limit := by
  constructor
  · intro sliced
    obtain ⟨part, found⟩ := Option.isSome_iff_exists.1 sliced
    rw [slice?, Option.ite_none_right_eq_some] at found
    obtain ⟨ordered, found⟩ := found
    obtain ⟨_, started, stopped⟩ := Option.bind_eq_some_iff.1 found
    obtain ⟨⟨before, rest⟩, cutFirst, rfl⟩ := Option.map_eq_some_iff.1 started
    obtain ⟨⟨part, after⟩, cutThen, -⟩ := Option.map_eq_some_iff.1 stopped
    obtain ⟨rfl, rfl⟩ := splitAt?_eq_some.1 cutFirst
    obtain ⟨rfl, counted⟩ := splitAt?_eq_some.1 cutThen
    refine ⟨ordered, ⟨before, _, rfl, rfl⟩, before ++ part, after, ?_, ?_⟩
    · rw [List.append_assoc]
    · rw [byteLength_append]
      omega
  · rintro ⟨ordered, ⟨before, rest, rfl, rfl⟩, ⟨longer, after, split, rfl⟩⟩
    obtain ⟨part, rfl⟩ : before <+: longer := by
      rcases List.prefix_or_prefix_of_prefix ⟨rest, rfl⟩ ⟨after, split.symm⟩ with
        isPrefix | ⟨more, rfl⟩
      · exact isPrefix
      · rw [byteLength_append] at ordered
        obtain rfl : more = [] := byteLength_eq_zero.1 (by omega)
        exact ⟨[], by rw [List.append_nil, List.append_nil]⟩
    rw [split, byteLength_append, List.append_assoc, slice?_append]
    rfl

/-! ### Searching -/

/-- The offset of the first `sep`. -/
def find? (sep : Char) (cs : List Char) : Option Nat :=
  (splitFirst? sep cs).map fun p => byteLength p.1

/-- The offset of the last `sep`. -/
def findLast? (sep : Char) (cs : List Char) : Option Nat :=
  (splitLast? sep cs).map fun p => byteLength p.1

/-- The first character without a property, and its offset. -/
def findNot? (p : Char → Bool) (cs : List Char) : Option (Nat × Char) :=
  (cs.dropWhile p).head?.map fun c => (byteLength (cs.takeWhile p), c)

/-! ### Bytes -/

/-- The UTF-8 form of a text. -/
def bytes (cs : List Char) : List UInt8 := cs.flatMap String.utf8EncodeChar

@[simp] theorem bytes_nil : bytes [] = [] := rfl

theorem bytes_cons (c : Char) (cs : List Char) :
    bytes (c :: cs) = String.utf8EncodeChar c ++ bytes cs := rfl

theorem bytes_append (before after : List Char) :
    bytes (before ++ after) = bytes before ++ bytes after :=
  List.flatMap_append

@[simp] theorem length_bytes (cs : List Char) : (bytes cs).length = byteLength cs := by
  induction cs with
  | nil => rfl
  | cons c cs ih =>
      rw [bytes_cons, List.length_append, String.length_utf8EncodeChar, ih, byteLength_cons]

/-- The bytes from a boundary on are those of the rest. -/
theorem drop_bytes (before after : List Char) :
    (bytes (before ++ after)).drop (byteLength before) = bytes after := by
  rw [bytes_append, ← length_bytes, List.drop_left]

/-- The byte at a boundary is the first one of the rest. -/
theorem getElem?_bytes (before after : List Char) :
    (bytes (before ++ after))[byteLength before]? = (bytes after).head? := by
  rw [← drop_bytes before after, List.head?_drop]

theorem utf8Size_of_ascii {c : Char} (ascii : c.toNat < 0x80) : c.utf8Size = 1 := by
  rw [Char.utf8Size_eq_one_iff, UInt32.le_iff_toNat_le]
  exact Nat.le_of_lt_succ ascii

/-- An ASCII character is one byte. -/
theorem utf8EncodeChar_of_ascii {c : Char} (ascii : c.toNat < 0x80) :
    String.utf8EncodeChar c = [c.toUInt8] := by
  rw [String.utf8EncodeChar_eq_singleton (utf8Size_of_ascii ascii), Char.toUInt8_val]

/-- An ASCII text has as many bytes as characters. -/
theorem byteLength_of_ascii {cs : List Char} (ascii : ∀ c ∈ cs, c.toNat < 0x80) :
    byteLength cs = cs.length := by
  induction cs with
  | nil => rfl
  | cons c cs ih =>
      obtain ⟨first, others⟩ := List.forall_mem_cons.1 ascii
      rw [byteLength_cons, utf8Size_of_ascii first, ih others, List.length_cons, Nat.add_comm]

/-- Any other character is made up of bytes that are no ASCII characters. -/
theorem le_of_mem_utf8EncodeChar {c : Char} (beyond : 0x80 ≤ c.toNat) {b : UInt8}
    (mem : b ∈ String.utf8EncodeChar c) : 0x80 ≤ b.toNat := by
  have large : ¬ c.val.toNat ≤ 127 := Nat.not_le.2 beyond
  simp only [String.utf8EncodeChar, if_neg large] at mem
  split_ifs at mem
  all_goals
    simp only [List.mem_cons, List.not_mem_nil, or_false] at mem
    rcases mem with rfl | rfl | rfl | rfl <;> simp only [UInt8.toNat_ofNat'] <;> omega

theorem toNat_toUInt8 {c : Char} (ascii : c.toNat < 0x80) : c.toUInt8.toNat = c.toNat := by
  have same : c.toUInt8.toNat = c.toNat % 256 := rfl
  omega

theorem toUInt8_eq_iff {c d : Char} (ascii : c.toNat < 0x80) (ascii' : d.toNat < 0x80) :
    c.toUInt8 = d.toUInt8 ↔ c = d := by
  rw [← Char.toNat_inj, ← toNat_toUInt8 ascii, ← toNat_toUInt8 ascii', UInt8.toNat_inj]

/-- An ASCII character is a byte of itself and of no other character. -/
theorem mem_utf8EncodeChar_iff {c d : Char} (ascii : d.toNat < 0x80) :
    d.toUInt8 ∈ String.utf8EncodeChar c ↔ c = d := by
  constructor
  · intro mem
    have within : c.toNat < 0x80 := by
      by_contra beyond
      have large := le_of_mem_utf8EncodeChar (Nat.le_of_not_lt beyond) mem
      rw [toNat_toUInt8 ascii] at large
      omega
    rw [utf8EncodeChar_of_ascii within, List.mem_singleton] at mem
    exact ((toUInt8_eq_iff ascii within).1 mem).symm
  · rintro rfl
    rw [utf8EncodeChar_of_ascii ascii]
    exact List.mem_singleton_self _

/-- An ASCII character is among the bytes of a text if and only if it is in the text. -/
theorem mem_bytes_iff {c : Char} (ascii : c.toNat < 0x80) {cs : List Char} :
    c.toUInt8 ∈ bytes cs ↔ c ∈ cs := by
  simp only [bytes, List.mem_flatMap, mem_utf8EncodeChar_iff ascii, exists_eq_right]

/-- Among ASCII characters, a text has one if and only if its bytes do. -/
theorem any_bytes {marks : List Char} (ascii : marks.all (·.toNat < 0x80) = true)
    (cs : List Char) :
    (bytes cs).any (marks.map Char.toUInt8).contains = cs.any marks.contains := by
  have ascii' : ∀ c ∈ marks, c.toNat < 0x80 := by simpa using ascii
  rw [Bool.eq_iff_iff, List.any_eq_true, List.any_eq_true]
  simp only [List.contains_iff_mem, List.mem_map]
  constructor
  · rintro ⟨b, mem, c, isMark, rfl⟩
    exact ⟨c, (mem_bytes_iff (ascii' c isMark)).1 mem, isMark⟩
  · rintro ⟨c, mem, isMark⟩
    exact ⟨_, (mem_bytes_iff (ascii' c isMark)).2 mem, c, isMark, rfl⟩

/-- The first byte that is an ASCII character is where this character is first found. -/
theorem findIdx?_bytes {sep : Char} (ascii : sep.toNat < 0x80) (cs : List Char) :
    (bytes cs).findIdx? (· == sep.toUInt8) = (splitFirst? sep cs).map fun p => byteLength p.1 := by
  have absent {part : List Char} (notMem : sep ∉ part) :
      (bytes part).findIdx? (· == sep.toUInt8) = none := by
    rw [List.findIdx?_eq_none_iff]
    intro b mem
    rw [beq_eq_false_iff_ne]
    rintro rfl
    exact notMem ((mem_bytes_iff ascii).1 mem)
  cases found : splitFirst? sep cs with
  | none => exact absent (splitFirst?_eq_none.1 found)
  | some p =>
      obtain ⟨before, after⟩ := p
      obtain ⟨rfl, notMem⟩ := splitFirst?_eq_some.1 found
      rw [bytes_append, List.findIdx?_append, absent notMem, Option.none_or, bytes_cons,
        utf8EncodeChar_of_ascii ascii, List.singleton_append, List.findIdx?_cons,
        if_pos BEq.rfl, length_bytes]
      exact congrArg some (Nat.zero_add _)

/-- The first byte of a character, read as a character of its own. -/
theorem exists_utf8EncodeChar (c : Char) :
    ∃ lead others, String.utf8EncodeChar c = lead :: others ∧
      Char.ofNat lead.toNat = leadByte c := by
  have same : c.val.toNat = c.toNat := rfl
  have bound : c.toNat < 0x110000 := by
    rcases c.valid with below | ⟨-, below⟩
    · exact Nat.lt_trans below (by decide)
    · exact below
  -- the ranges of both definitions are the same, so the mixed cases are empty
  simp only [String.utf8EncodeChar, leadByte, same]
  split_ifs
  all_goals first | omega | refine ⟨_, _, rfl, ?_⟩; rw [UInt8.toNat_ofNat']
  · exact (congrArg Char.ofNat (by omega)).trans (Char.ofNat_toNat c)
  · exact congrArg Char.ofNat (by omega)
  · exact congrArg Char.ofNat (by omega)
  · exact congrArg Char.ofNat (by omega)

/-- A character starts with the byte of an ASCII character only if it is that character. -/
theorem lead_eq_iff {c d : Char} {lead : UInt8} {others : List UInt8}
    (encoded : String.utf8EncodeChar c = lead :: others) (ascii : d.toNat < 0x80) :
    lead = d.toUInt8 ↔ c = d := by
  constructor
  · rintro rfl
    rw [← mem_utf8EncodeChar_iff ascii, encoded]
    exact List.mem_cons_self
  · rintro rfl
    rw [utf8EncodeChar_of_ascii ascii] at encoded
    exact (List.cons.inj encoded).1.symm

/-- The byte at the start of a character, which is told apart from ASCII characters by it. -/
theorem exists_lead (before : List Char) (c : Char) (after : List Char) :
    ∃ lead, (∀ d : Char, d.toNat < 0x80 → (lead = d.toUInt8 ↔ c = d)) ∧
      Char.ofNat lead.toNat = leadByte c ∧
        (bytes (before ++ c :: after))[byteLength before]? = some lead := by
  obtain ⟨lead, others, encoded, read⟩ := exists_utf8EncodeChar c
  refine ⟨lead, fun d ascii => lead_eq_iff encoded ascii, read, ?_⟩
  rw [getElem?_bytes, bytes_cons, encoded]
  rfl

/-- A run of an ASCII character is a run of its byte. -/
theorem takeWhile_bytes {c : Char} (ascii : c.toNat < 0x80) (cs : List Char) :
    (bytes cs).takeWhile (· == c.toUInt8) = bytes (cs.takeWhile (· == c)) := by
  induction cs with
  | nil => rfl
  | cons d cs ih =>
      obtain ⟨lead, others, encoded, -⟩ := exists_utf8EncodeChar d
      have same := lead_eq_iff encoded ascii
      rw [bytes_cons, List.takeWhile_cons]
      by_cases here : d = c
      · subst here
        rw [utf8EncodeChar_of_ascii ascii, List.singleton_append, List.takeWhile_cons, ih,
          if_pos BEq.rfl, if_pos BEq.rfl, bytes_cons, utf8EncodeChar_of_ascii ascii,
          List.singleton_append]
      · rw [encoded, List.cons_append, List.takeWhile_cons_of_neg, if_neg, bytes_nil]
        · rwa [beq_iff_eq]
        · rwa [beq_iff_eq, same]

/-! ### Slices of bytes -/

/-- Bytes from an offset on, unless it lies beyond their end. -/
def bytesFrom? (bs : List UInt8) (start : Nat) : Option (List UInt8) :=
  if start ≤ bs.length then some (bs.drop start) else none

/-- Bytes from one offset to another. -/
def bytesBetween? (bs : List UInt8) (start limit : Nat) : Option (List UInt8) :=
  if start ≤ limit ∧ limit ≤ bs.length then some ((bs.take limit).drop start) else none

theorem bytesFrom?_bytes (before after : List Char) :
    bytesFrom? (bytes (before ++ after)) (byteLength before) = some (bytes after) := by
  rw [bytesFrom?, if_pos, drop_bytes]
  rw [length_bytes, byteLength_append]
  omega

theorem bytesBetween?_bytes (before part after : List Char) :
    bytesBetween? (bytes (before ++ (part ++ after))) (byteLength before)
      (byteLength before + byteLength part) = some (bytes part) := by
  have taken : (bytes (before ++ (part ++ after))).take (byteLength before + byteLength part) =
      bytes (before ++ part) := by
    rw [← List.append_assoc, bytes_append, ← byteLength_append, ← length_bytes, List.take_left]
  rw [bytesBetween?, if_pos, taken, drop_bytes]
  rw [length_bytes, byteLength_append, byteLength_append]
  omega

/-- A computation that may stop at a fault, and that has no result at all once a slice has none. -/
abbrev Slicing (ε : Type) := ExceptT ε Option

namespace Slicing

variable {ε α β : Type}

theorem run_bind_of_ok {x : Slicing ε α} {a : α} (h : x.run = some (.ok a))
    (f : α → Slicing ε β) : (x >>= f).run = (f a).run := by
  show Option.bind x.run _ = _
  rw [h]
  rfl

/-- A slice that has a result is gone on with. -/
theorem run_lift_bind {part : Option α} {a : α} (h : part = some a) (f : α → Slicing ε β) :
    ((liftM part : Slicing ε α) >>= f).run = (f a).run := by
  rw [h]
  rfl

theorem run_bind_of_error {x : Slicing ε α} {e : ε} (h : x.run = some (.error e))
    (f : α → Slicing ε β) : (x >>= f).run = some (.error e) := by
  show Option.bind x.run _ = _
  rw [h]
  rfl

/-- A computation whose slices have results is gone on with like one without slices. -/
theorem run_bind {x : Slicing ε α} {y : Except ε α} (h : x.run = some y) {f : α → Slicing ε β}
    {g : α → Except ε β} (next : ∀ a, y = .ok a → (f a).run = some (g a)) :
    (x >>= f).run = some (y >>= g) := by
  cases y with
  | error e => exact run_bind_of_error h f
  | ok a => exact (run_bind_of_ok h f).trans (next a rfl)

/-- The same, where the results differ but correspond to each other. -/
theorem run_bind_of_map {γ : Type} {x : Slicing ε α} {y : Except ε γ} {p : γ → α}
    (h : x.run = some (y.map p)) {f : α → Slicing ε β} {g : γ → Except ε β}
    (next : ∀ c, y = .ok c → (f (p c)).run = some (g c)) : (x >>= f).run = some (y >>= g) := by
  cases y with
  | error e => exact run_bind_of_error h f
  | ok c => exact (run_bind_of_ok h f).trans (next c rfl)

/-- Another way to report the same faults. -/
theorem run_adapt {ε' : Type} {x : Slicing ε α} {y : Except ε α} (h : x.run = some y)
    (f : ε → ε') : (ExceptT.adapt f x).run = some (y.mapError f) := by
  show Option.map _ x.run = _
  rw [h]
  rfl

/-- One computation after another succeeds if and only if both do. -/
theorem run_bind_eq_ok_iff {x : Slicing ε α} {f : α → Slicing ε β} {b : β} :
    (x >>= f).run = some (.ok b) ↔ ∃ a, x.run = some (.ok a) ∧ (f a).run = some (.ok b) := by
  constructor
  · intro run
    obtain ⟨result, first, second⟩ := Option.bind_eq_some_iff.1 run
    cases result with
    | ok a => exact ⟨a, first, second⟩
    | error e => cases second
  · rintro ⟨a, first, second⟩
    rw [run_bind_of_ok first, second]

end Slicing

/-! ### Positions of strings -/

/-- The length of a text in bytes is that of the string. -/
theorem byteLength_toList (raw : String) : byteLength raw.toList = raw.utf8ByteSize := by
  rw [← length_bytes, ← String.size_toByteArray, ← String.utf8Encode_toList]
  exact List.size_toByteArray.symm

/-- The boundaries of a text are the valid positions of the string. -/
theorem isOffset_iff_isValid {raw : String} {n : Nat} :
    IsOffset raw.toList n ↔ (⟨n⟩ : String.Pos.Raw).IsValid raw := by
  rw [String.Pos.Raw.isValid_iff_exists_append]
  constructor
  · rintro ⟨before, after, split, rfl⟩
    refine ⟨String.ofList before, String.ofList after, ?_, ?_⟩
    · rw [← String.ofList_append, ← split, String.ofList_toList]
    · rw [String.rawEndPos, ← byteLength_toList, String.toList_ofList]
  · rintro ⟨before, after, rfl, same⟩
    refine ⟨before.toList, after.toList, String.toList_append, ?_⟩
    rw [byteLength_toList]
    exact congrArg String.Pos.Raw.byteIdx same

end MixinIndex.Text
