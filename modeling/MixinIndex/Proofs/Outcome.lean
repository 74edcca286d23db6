import Mathlib.Data.List.Forall2

/-!
# Successful outcomes

When a computation that may fail is put together from others, it succeeds exactly if they do.  Each
way to put them together has an equivalence that takes a success apart, and builds one.

## Main statements

* `Except.map_eq_ok_iff`, `Except.mapError_eq_ok_iff`: another value, another error
* `Except.bind_eq_ok_iff`: one computation after another
* `Except.toOption_eq_some_iff`: the value without the error
* `List.mapM_eq_some_iff`, `List.mapM_eq_none_iff`: a computation for each item of a list
-/

namespace Except

variable {ε ε' α β : Type}

theorem map_eq_ok_iff {x : Except ε α} {f : α → β} {b : β} :
    x.map f = .ok b ↔ ∃ a, x = .ok a ∧ f a = b := by
  cases x <;> simp [Except.map]

theorem mapError_eq_ok_iff {x : Except ε α} {f : ε → ε'} {a : α} :
    x.mapError f = .ok a ↔ x = .ok a := by
  cases x with
  | error e =>
      constructor
      · intro same
        cases same
      · intro same
        cases same
  | ok b =>
      show Except.ok b = .ok a ↔ Except.ok b = .ok a
      rw [Except.ok.injEq, Except.ok.injEq]

theorem bind_eq_ok_iff {x : Except ε α} {f : α → Except ε β} {b : β} :
    (x >>= f) = .ok b ↔ ∃ a, x = .ok a ∧ f a = .ok b := by
  cases x <;> simp [bind, Except.bind]

theorem toOption_eq_some_iff {x : Except ε α} {a : α} : x.toOption = some a ↔ x = .ok a := by
  cases x <;> simp [Except.toOption]

end Except

namespace List

variable {α β : Type} {decode : α → Option β} {items : List α}

theorem mapM_eq_some_iff {values : List β} :
    items.mapM decode = some values ↔
      Forall₂ (fun item value => decode item = some value) items values := by
  induction items generalizing values with
  | nil => cases values <;> simp
  | cons item items ih =>
      simp only [mapM_cons, Option.bind_eq_bind, Option.bind_eq_some_iff, ih,
        forall₂_cons_left_iff, Option.pure_def, Option.some.injEq]
      constructor
      · rintro ⟨value, decoded, values, others, rfl⟩
        exact ⟨value, values, decoded, others, rfl⟩
      · rintro ⟨value, values, decoded, others, rfl⟩
        exact ⟨value, decoded, values, others, rfl⟩

theorem mapM_eq_none_iff : items.mapM decode = none ↔ ∃ item ∈ items, decode item = none := by
  induction items with
  | nil => simp
  | cons item items ih =>
      cases decoded : decode item with
      | none => simp [decoded]
      | some value =>
          have others : (item :: items).mapM decode = (items.mapM decode).map (value :: ·) := by
            rw [mapM_cons, decoded]
            cases items.mapM decode <;> rfl
          rw [others, Option.map_eq_none_iff, ih]
          simp [decoded]

end List
