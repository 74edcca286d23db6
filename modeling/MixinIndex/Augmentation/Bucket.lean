import MixinIndex.Augmentation.Entry
import MixinIndex.Diagnostic

/-!
# Resolved augmentations

The handlers of one target type, gathered under the member and the kind they apply to.

## Main definitions

* `Augmentations`: handlers by member and kind, and the problems found
* `Augmentations.record`, `Augmentations.extend`: adding one handler, or all of another gathering
* `Augmentations.summaries`: one summary for each member and kind, in order
-/

namespace MixinIndex

open Augmentation
open Std (TransOrd TransCmp LawfulEqOrd LawfulEqCmp)

namespace Augmentation

/-- A member under one kind of augmentation. -/
structure BucketKey where
  member : MemberKey
  kind : Kind
  deriving DecidableEq

namespace BucketKey

/-- Keys are ordered by member, then kind. -/
def order : BucketKey → BucketKey → Ordering :=
  compareLex (compareOn (·.member)) (compareOn (·.kind))

instance : Ord BucketKey := ⟨order⟩

instance : TransOrd BucketKey := inferInstanceAs (TransCmp (compareLex _ _))

instance : LawfulEqOrd BucketKey where
  eq_of_compare {a b} h := by
    have : order a b = .eq := h
    simp only [order, compareLex_eq_eq, compareOn, LawfulEqCmp.compare_eq_iff_eq] at this
    cases a
    cases b
    simp_all

end BucketKey

/-- What is gathered under one key. -/
structure Summary where
  member : MemberKey
  kind : Kind
  handlers : List Handler
  deriving DecidableEq

namespace Summary

/-- The number of handlers. -/
def count (s : Summary) : Nat := s.handlers.length

/-- The number of handlers that read. -/
def getters (s : Summary) : Nat := s.handlers.countP Handler.isGetter

/-- The number of handlers that write. -/
def setters (s : Summary) : Nat := s.count - s.getters

/-- The summary in a few words: readers and writers of a field, a plain count otherwise. -/
def display (s : Summary) : String :=
  if s.member.kind = .field ∧ s.kind = .accessor then
    s.kind.label ++ ":" ++ (if 0 < s.getters then " " ++ toString s.getters ++ " get" else "") ++
      (if 0 < s.setters then " " ++ toString s.setters ++ " set" else "")
  else toString s.count ++ " x " ++ s.kind.label

end Summary

end Augmentation

/-- The handlers of one target type by member and kind, and the problems found. -/
structure Augmentations where
  buckets : Std.ExtTreeMap BucketKey (Std.ExtTreeSet Handler) := ∅
  diagnostics : List Diagnostic := []

namespace Augmentations

/-- The handlers under a key. -/
def handlers? (a : Augmentations) (member : MemberKey) (kind : Kind) :
    Option (Std.ExtTreeSet Handler) := a.buckets[BucketKey.mk member kind]?

/-- Whether a handler is recorded under a member and kind. -/
def holds (a : Augmentations) (member : MemberKey) (kind : Kind) (handler : Handler) : Bool :=
  (a.handlers? member kind).any (·.contains handler)

/-- Record a handler. -/
def record (a : Augmentations) (member : MemberKey) (kind : Kind) (handler : Handler) :
    Augmentations :=
  { a with
    buckets := a.buckets.insert ⟨member, kind⟩
      (((a.handlers? member kind).getD ∅).insert handler) }

/-- Report a problem. -/
def report (a : Augmentations) (diagnostic : Diagnostic) : Augmentations :=
  { a with diagnostics := a.diagnostics ++ [diagnostic] }

/-- Report problems in order. -/
def reportAll (a : Augmentations) (diagnostics : List Diagnostic) : Augmentations :=
  { a with diagnostics := a.diagnostics ++ diagnostics }

/-- The number of keys. -/
def size (a : Augmentations) : Nat := a.buckets.size

/-- Add everything another gathering holds. -/
def extend (a b : Augmentations) : Augmentations where
  buckets := b.buckets.toList.foldl
    (fun buckets (key, handlers) =>
      buckets.insert key (handlers.toList.foldl (·.insert ·) (buckets[key]?.getD ∅)))
    a.buckets
  diagnostics := a.diagnostics ++ b.diagnostics

/-- A summary for each key, in order. -/
def summaries (a : Augmentations) : List Summary :=
  a.buckets.toList.map fun (key, handlers) => ⟨key.member, key.kind, handlers.toList⟩

theorem handlers?_record (a : Augmentations) (member m : MemberKey) (kind k : Kind)
    (handler : Handler) :
    (a.record member kind handler).handlers? m k =
      if member = m ∧ kind = k then
        some (((a.handlers? member kind).getD ∅).insert handler)
      else a.handlers? m k := by
  simp [handlers?, record, Std.ExtTreeMap.getElem?_insert]

/-- Recording adds one handler under one key and nothing else. -/
theorem holds_record (a : Augmentations) (member m : MemberKey) (kind k : Kind)
    (handler h : Handler) :
    (a.record member kind handler).holds m k h =
      (decide (member = m ∧ kind = k ∧ handler = h) || a.holds m k h) := by
  simp only [holds, handlers?_record]
  by_cases hk : member = m ∧ kind = k
  · obtain ⟨rfl, rfl⟩ := hk
    cases a.handlers? member kind <;> simp [Std.ExtTreeSet.contains_insert] <;> grind
  · have : ¬(member = m ∧ kind = k ∧ handler = h) := fun ⟨hm, hkind, _⟩ => hk ⟨hm, hkind⟩
    simp [hk, this]

@[simp] theorem diagnostics_record (a : Augmentations) (member : MemberKey) (kind : Kind)
    (handler : Handler) : (a.record member kind handler).diagnostics = a.diagnostics := rfl

end Augmentations

end MixinIndex
