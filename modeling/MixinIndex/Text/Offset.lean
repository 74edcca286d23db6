/-!
# Byte offsets

Positions in error reports count the bytes of the UTF-8 form.  Scanners work on lists of
characters, so a position is the byte length of what was consumed before it.

## Main definitions

* `byteLength`: the length of a text in bytes
* `leadByte`: the first byte of a character's UTF-8 form, read as a character
* `IsOffset`: a number is the byte length of some initial part of a text
-/

namespace MixinIndex.Text

/-- The number of bytes in the UTF-8 form of a text. -/
def byteLength : List Char → Nat
  | [] => 0
  | c :: cs => c.utf8Size + byteLength cs

@[simp] theorem byteLength_nil : byteLength [] = 0 := rfl

@[simp] theorem byteLength_cons (c : Char) (cs : List Char) :
    byteLength (c :: cs) = c.utf8Size + byteLength cs := rfl

@[simp] theorem byteLength_append (as bs : List Char) :
    byteLength (as ++ bs) = byteLength as + byteLength bs := by
  induction as with
  | nil => simp
  | cons c cs ih => simp [ih, Nat.add_assoc]

/-- The first byte of a character's UTF-8 form, read as a character of its own. -/
def leadByte (c : Char) : Char :=
  if c.toNat < 0x80 then c
  else if c.toNat < 0x800 then Char.ofNat (0xC0 + c.toNat / 0x40)
  else if c.toNat < 0x10000 then Char.ofNat (0xE0 + c.toNat / 0x1000)
  else Char.ofNat (0xF0 + c.toNat / 0x40000)

/-- `n` is a position in `cs` between two characters, or at either end. -/
def IsOffset (cs : List Char) (n : Nat) : Prop :=
  ∃ before after, cs = before ++ after ∧ n = byteLength before

theorem IsOffset.le {cs : List Char} {n : Nat} (h : IsOffset cs n) : n ≤ byteLength cs := by
  obtain ⟨before, after, rfl, rfl⟩ := h
  simp

theorem isOffset_byteLength (before after : List Char) :
    IsOffset (before ++ after) (byteLength before) :=
  ⟨before, after, rfl, rfl⟩

end MixinIndex.Text
