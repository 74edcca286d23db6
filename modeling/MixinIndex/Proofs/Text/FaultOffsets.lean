import MixinIndex.Text.Offset

/-!
# Offsets of faults

A reader that stops at a fault names the offset of it.  Whoever shows that offset beside the text
relies on its being a boundary there.  This is proved of a reader piece by piece: a piece is read
from its own offset on, and the boundaries of the pieces are boundaries of the whole.

## Main definitions

* `FailsWithin`: where a computation stops at a fault, it does so at a boundary of a text

## Main statements

* `FailsWithin.bind`: one computation after another
* `FailsWithin.behind`, `FailsWithin.before`: pieces of a text
-/

namespace MixinIndex.Text

variable {φ ψ α β : Type} {offset : Nat} {cs : List Char}

/-- A fault is at a boundary of a text that starts at `offset`. -/
def FailsWithin (offset : Nat) (cs : List Char) (x : Except (Nat × φ) α) : Prop :=
  ∀ e, x = .error e → ∃ n, IsOffset cs n ∧ e.1 = offset + n

namespace FailsWithin

theorem ok (a : α) : FailsWithin (φ := φ) offset cs (.ok a) := by
  rintro e ⟨⟩

theorem error (before after : List Char) (fault : φ) :
    FailsWithin (α := α) offset (before ++ after) (.error (offset + byteLength before, fault)) := by
  rintro e ⟨⟩
  exact ⟨_, isOffset_byteLength before after, rfl⟩

theorem error_start (fault : φ) : FailsWithin (α := α) offset cs (.error (offset, fault)) :=
  error [] cs fault

/-- A fault at the first character without a property. -/
theorem error_takeWhile (p : Char → Bool) (cs : List Char) (fault : φ) :
    FailsWithin (α := α) offset cs (.error (offset + byteLength (cs.takeWhile p), fault)) := by
  have failure : FailsWithin (α := α) offset (cs.takeWhile p ++ cs.dropWhile p)
      (.error (offset + byteLength (cs.takeWhile p), fault)) :=
    error _ _ fault
  rwa [List.takeWhile_append_dropWhile] at failure

theorem bind {x : Except (Nat × φ) α} {f : α → Except (Nat × φ) β} (first : FailsWithin offset cs x)
    (next : ∀ a, x = .ok a → FailsWithin offset cs (f a)) : FailsWithin offset cs (x >>= f) := by
  cases x with
  | error e =>
      rintro _ ⟨⟩
      exact first e rfl
  | ok a => exact next a rfl

theorem map {x : Except (Nat × φ) α} (h : FailsWithin offset cs x) (f : α → β) :
    FailsWithin offset cs (x.map f) := by
  cases x with
  | error e =>
      rintro _ ⟨⟩
      exact h e rfl
  | ok a => exact ok (f a)

/-- The faults of a piece, read by itself. -/
theorem mapError {x : Except (Nat × φ) α} (h : FailsWithin 0 cs x) (f : φ → ψ) :
    FailsWithin offset cs (x.mapError fun e => (offset + e.1, f e.2)) := by
  cases x with
  | error e =>
      rintro _ ⟨⟩
      obtain ⟨n, isOffset, same⟩ := h e rfl
      exact ⟨n, isOffset, congrArg (offset + ·) (same.trans (Nat.zero_add n))⟩
  | ok a => exact ok a

/-- Faults in what follows a piece. -/
theorem behind {x : Except (Nat × φ) α} (piece : List Char)
    (h : FailsWithin (offset + byteLength piece) cs x) : FailsWithin offset (piece ++ cs) x := by
  intro e failed
  obtain ⟨_, ⟨before, after, rfl, rfl⟩, same⟩ := h e failed
  refine ⟨byteLength (piece ++ before), ⟨piece ++ before, after, ?_, rfl⟩, ?_⟩
  · rw [List.append_assoc]
  · rw [same, byteLength_append, Nat.add_assoc]

/-- Faults in the piece before others. -/
theorem before {x : Except (Nat × φ) α} (h : FailsWithin offset cs x) (rest : List Char) :
    FailsWithin offset (cs ++ rest) x := by
  intro e failed
  obtain ⟨_, ⟨before, after, rfl, rfl⟩, same⟩ := h e failed
  exact ⟨_, ⟨before, after ++ rest, List.append_assoc _ _ _, rfl⟩, same⟩

end FailsWithin

end MixinIndex.Text
