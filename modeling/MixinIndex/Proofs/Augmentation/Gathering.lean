import MixinIndex.Augmentation.Index
import MixinIndex.Proofs.Contribution.Plain

/-!
# Gathering

A target's augmentations are gathered entry by entry.  What an entry adds does not depend on what
has been gathered before, so a gathering is put together from the shares of its entries: handlers
add up as sets, bucket by bucket, and problems one after the other.

## Main definitions

* `Augmentations.Adds`: a step adds the same to every gathering
* `Augmentations.ofEntry`: the share of one entry
* `Augmentations.IsTidy`: no bucket is empty

## Main statements

* `Augmentations.extend_assoc`: gatherings extend each other as a monoid
* `Augmentations.adds_resolveEntry`, `Augmentations.adds_addMixin`: entries and augmenting types add
  their shares
* `Augmentations.holds_ofTarget_iff`, `Augmentations.diagnostics_ofTarget`: what is gathered for a
  target, in terms of the shares of entries
* `Augmentations.summaries_eq_of_holds`: the summaries depend on the handlers held
-/

namespace MixinIndex

open Augmentation

namespace Augmentations

/-! ### Extending -/

/-- Add one bucket to those of a gathering. -/
def addBucket (buckets : Std.ExtTreeMap BucketKey (Std.ExtTreeSet Handler))
    (bucket : BucketKey × Std.ExtTreeSet Handler) :
    Std.ExtTreeMap BucketKey (Std.ExtTreeSet Handler) :=
  buckets.insert bucket.1 (bucket.2.toList.foldl (·.insert ·) (buckets[bucket.1]?.getD ∅))

theorem foldl_insert_eq_union (s t : Std.ExtTreeSet Handler) :
    t.toList.foldl (·.insert ·) s = s ∪ t := by
  refine Std.ExtTreeSet.ext_mem fun h => ?_
  rw [mem_foldl_insert, Std.ExtTreeSet.mem_union_iff, Std.ExtTreeSet.mem_toList]

theorem insert_eq_union (s : Std.ExtTreeSet Handler) (h : Handler) :
    s.insert h = s ∪ (∅ : Std.ExtTreeSet Handler).insert h := by
  refine Std.ExtTreeSet.ext_mem fun other => ?_
  simp [Std.ExtTreeSet.mem_union_iff, or_comm]

theorem empty_union_set (s : Std.ExtTreeSet Handler) : ∅ ∪ s = s := by
  refine Std.ExtTreeSet.ext_mem fun h => ?_
  simp [Std.ExtTreeSet.mem_union_iff]

theorem union_assoc_set (s t u : Std.ExtTreeSet Handler) : s ∪ t ∪ u = s ∪ (t ∪ u) := by
  refine Std.ExtTreeSet.ext_mem fun h => ?_
  simp only [Std.ExtTreeSet.mem_union_iff, or_assoc]

/-- Buckets under distinct keys are added each to the one under its key. -/
theorem getElem?_foldl_addBucket {added : List (BucketKey × Std.ExtTreeSet Handler)}
    (distinct : added.Pairwise fun a b => a.1 ≠ b.1) {key : BucketKey}
    {here : Option (Std.ExtTreeSet Handler)} (found : ∀ s, (key, s) ∈ added ↔ here = some s)
    (buckets : Std.ExtTreeMap BucketKey (Std.ExtTreeSet Handler)) :
    (added.foldl addBucket buckets)[key]? = buckets[key]?.merge (· ∪ ·) here := by
  induction added generalizing here buckets with
  | nil =>
      cases here with
      | none => simp
      | some s => exact absurd ((found s).2 rfl) List.not_mem_nil
  | cons bucket added ih =>
      obtain ⟨k, s⟩ := bucket
      obtain ⟨apart, distinct⟩ := List.pairwise_cons.1 distinct
      by_cases same : k = key
      · subst same
        -- the keys are distinct, so nothing else is added under this one
        have rest : ∀ t, (k, t) ∈ added ↔ none = some t := fun t => by
          simpa using fun member => apart (k, t) member rfl
        obtain rfl : here = some s := (found s).1 List.mem_cons_self
        rw [List.foldl_cons, ih distinct rest, addBucket, Std.ExtTreeMap.getElem?_insert_self,
          foldl_insert_eq_union]
        cases buckets[k]? <;> simp [empty_union_set]
      · have rest : ∀ t, (key, t) ∈ added ↔ here = some t := fun t => by
          rw [← found t, List.mem_cons, Prod.mk.injEq]
          exact ⟨Or.inr, fun member => member.resolve_left fun first => same first.1.symm⟩
        have untouched : (addBucket buckets (k, s))[key]? = buckets[key]? := by
          rw [addBucket, Std.ExtTreeMap.getElem?_insert, if_neg]
          rw [Std.LawfulEqCmp.compare_eq_iff_eq]
          exact same
        rw [List.foldl_cons, ih distinct rest, untouched]

section

variable (a b c : Augmentations) (member m : MemberKey) (kind k : Kind) (handler h : Handler)

@[simp] theorem holds_empty : ({} : Augmentations).holds m k h = false := by
  simp [holds, handlers?]

@[simp] theorem handlers?_empty : ({} : Augmentations).handlers? m k = none := by
  simp [handlers?]

/-- Extending adds bucket to bucket. -/
theorem handlers?_extend :
    (a.extend b).handlers? m k = (a.handlers? m k).merge (· ∪ ·) (b.handlers? m k) := by
  have distinct : b.buckets.toList.Pairwise fun x y => x.1 ≠ y.1 := by
    refine b.buckets.distinct_keys_toList.imp fun {x y} different same => different ?_
    rw [same]
    exact Std.ReflCmp.compare_self
  exact getElem?_foldl_addBucket distinct
    (fun s => Std.ExtTreeMap.mem_toList_iff_getElem?_eq_some) a.buckets

@[simp] theorem diagnostics_extend :
    (a.extend b).diagnostics = a.diagnostics ++ b.diagnostics := rfl

variable {a b} in
/-- A gathering is determined by its buckets and its problems. -/
theorem ext_handlers? (handlers : ∀ m k, a.handlers? m k = b.handlers? m k)
    (diagnostics : a.diagnostics = b.diagnostics) : a = b := by
  have buckets : a.buckets = b.buckets :=
    Std.ExtTreeMap.ext_getElem? fun key => handlers key.member key.kind
  cases a
  cases b
  subst buckets
  subst diagnostics
  rfl

theorem extend_assoc : (a.extend b).extend c = a.extend (b.extend c) := by
  refine ext_handlers? (fun m k => ?_) (List.append_assoc ..)
  rw [handlers?_extend, handlers?_extend, handlers?_extend, handlers?_extend]
  cases a.handlers? m k <;> cases b.handlers? m k <;> cases c.handlers? m k <;>
    simp [union_assoc_set]

@[simp] theorem extend_empty : a.extend {} = a := by
  refine ext_handlers? (fun m k => ?_) (List.append_nil _)
  rw [handlers?_extend, handlers?_empty, Option.merge_none_right]

@[simp] theorem empty_extend : ({} : Augmentations).extend a = a := by
  refine ext_handlers? (fun m k => ?_) (List.nil_append _)
  rw [handlers?_extend, handlers?_empty, Option.merge_none_left]

/-- Extending adds the handlers held. -/
theorem holds_extend : (a.extend b).holds m k h = (a.holds m k h || b.holds m k h) := by
  rw [holds, holds, holds, handlers?_extend]
  cases a.handlers? m k <;> cases b.handlers? m k <;> simp

end

/-! ### Steps that add -/

/-- A step adds the same to every gathering: what it makes of the empty one. -/
def Adds (f : Augmentations → Augmentations) : Prop := ∀ a, f a = a.extend (f {})

namespace Adds

variable {f g : Augmentations → Augmentations}

theorem id : Adds id := fun a => (extend_empty a).symm

theorem comp (hg : Adds g) (hf : Adds f) : Adds (g ∘ f) := by
  intro a
  calc g (f a) = (f a).extend (g {}) := hg (f a)
    _ = (a.extend (f {})).extend (g {}) := by rw [hf a]
    _ = a.extend ((f {}).extend (g {})) := extend_assoc ..
    _ = a.extend (g (f {})) := by rw [← hg (f {})]

variable {α : Type} {step : Augmentations → α → Augmentations}

/-- Several steps that add, taken together, add. -/
theorem foldl (adds : ∀ x, Adds (step · x)) (xs : List α) : Adds (xs.foldl step ·) := by
  induction xs with
  | nil => exact .id
  | cons x xs ih => exact ih.comp (adds x)

/-- Several steps hold what the single steps hold. -/
theorem holds_foldl_iff (adds : ∀ x, Adds (step · x)) (xs : List α) (a : Augmentations)
    (m : MemberKey) (k : Kind) (h : Handler) :
    (xs.foldl step a).holds m k h = true ↔
      a.holds m k h = true ∨ ∃ x ∈ xs, (step {} x).holds m k h = true := by
  induction xs generalizing a with
  | nil => simp
  | cons x xs ih =>
      have first : step a x = a.extend (step {} x) := adds x a
      rw [List.foldl_cons, ih, first, holds_extend, Bool.or_eq_true, List.exists_mem_cons_iff,
        or_assoc]

/-- Several steps report what the single steps report, in order. -/
theorem diagnostics_foldl (adds : ∀ x, Adds (step · x)) (xs : List α) (a : Augmentations) :
    (xs.foldl step a).diagnostics =
      a.diagnostics ++ xs.flatMap fun x => (step {} x).diagnostics := by
  induction xs generalizing a with
  | nil => simp
  | cons x xs ih =>
      have first : step a x = a.extend (step {} x) := adds x a
      rw [List.foldl_cons, ih, first, diagnostics_extend, List.flatMap_cons, List.append_assoc]

end Adds

theorem adds_record (member : MemberKey) (kind : Kind) (handler : Handler) :
    Adds (·.record member kind handler) := by
  refine fun a => ext_handlers? (fun m k => ?_) (by simp)
  rw [handlers?_extend, handlers?_record, handlers?_record]
  by_cases here : member = m ∧ kind = k
  · obtain ⟨rfl, rfl⟩ := here
    cases a.handlers? member kind with
    | none => simp
    | some s => simpa using insert_eq_union s handler
  · rw [if_neg here, if_neg here, handlers?_empty, Option.merge_none_right]

theorem adds_reportAll (diagnostics : List Diagnostic) : Adds (·.reportAll diagnostics) := by
  refine fun a => ext_handlers? (fun m k => ?_) rfl
  have silent : (({} : Augmentations).reportAll diagnostics).handlers? m k = none :=
    handlers?_empty m k
  rw [handlers?_extend, silent, Option.merge_none_right]
  rfl

end Augmentations

/-! ### Entries -/

namespace Declaration

/-- The members that an entry hits. -/
def hits (target : Declaration) (entry : Entry) : List Member :=
  match entry.target with
  | .name name =>
    if entry.kind = .overwrite then (target.findExact? name entry.handler.parameters).toList
    else (target.field? name).toList
  | .specifier spec => (target.resolveMethod spec).members

/-- The problems found with an entry. -/
def problems (target : Declaration) (entry : Entry) : List Diagnostic :=
  match entry.target with
  | .name name =>
    if target.hits entry ≠ [] then []
    else if entry.kind = .overwrite then
      [target.notFound (name ++ entry.handler.descriptor.text)]
    else [target.notFound name]
  | .specifier spec => (target.resolveMethod spec).diagnostics

end Declaration

namespace Augmentations

/-- The share of an entry: what it adds to any gathering. -/
def ofEntry (target : Declaration) (entry : Entry) : Augmentations := resolveEntry target {} entry

/-- An entry is recorded on the members that it hits, and its problems are reported. -/
theorem resolveEntry_eq (target : Declaration) (a : Augmentations) (entry : Entry) :
    resolveEntry target a entry =
      ((target.hits entry).foldl (recordEntry entry) a).reportAll (target.problems entry) := by
  obtain ⟨kind, handler, locates⟩ := entry
  cases locates with
  | specifier spec => rfl
  | name name =>
      by_cases overwrites : kind = .overwrite
      · cases found : target.findExact? name handler.parameters <;>
          simp [resolveEntry, Declaration.hits, Declaration.problems, overwrites, found, reportAll,
            report]
      · cases found : target.field? name <;>
          simp [resolveEntry, Declaration.hits, Declaration.problems, overwrites, found, reportAll,
            report]

theorem adds_recordEntry (entry : Entry) (member : Member) :
    Adds (recordEntry entry · member) :=
  adds_record member.key entry.kind entry.handler

theorem adds_resolveEntry (target : Declaration) (entry : Entry) :
    Adds (resolveEntry target · entry) := by
  have recorded : Adds ((target.hits entry).foldl (recordEntry entry) ·) :=
    .foldl (adds_recordEntry entry) _
  have steps : (resolveEntry target · entry) =
      (·.reportAll (target.problems entry)) ∘ ((target.hits entry).foldl (recordEntry entry) ·) :=
    funext fun a => resolveEntry_eq target a entry
  rw [steps]
  exact (adds_reportAll (target.problems entry)).comp recorded

/-- An entry is held, under its kind, by the members that it hits. -/
theorem holds_ofEntry_iff {target : Declaration} {entry : Entry} {m : MemberKey} {k : Kind}
    {h : Handler} : (ofEntry target entry).holds m k h = true ↔
      entry.kind = k ∧ entry.handler = h ∧ ∃ member ∈ target.hits entry, member.key = m := by
  have recorded := Adds.holds_foldl_iff (adds_recordEntry entry) (target.hits entry) {} m k h
  rw [ofEntry, resolveEntry_eq]
  refine recorded.trans ?_
  simp only [recordEntry, holds_record, holds_empty]
  constructor
  · rintro (absent | ⟨member, hit, held⟩)
    · cases absent
    · obtain ⟨isKey, isKind, isHandler⟩ := of_decide_eq_true ((Bool.or_false _).symm.trans held)
      exact ⟨isKind, isHandler, member, hit, isKey⟩
  · rintro ⟨isKind, isHandler, member, hit, isKey⟩
    exact Or.inr ⟨member, hit, by simp [isKind, isHandler, isKey]⟩

/-- The problems of an entry are reported. -/
theorem diagnostics_ofEntry (target : Declaration) (entry : Entry) :
    (ofEntry target entry).diagnostics = target.problems entry := by
  have recorded := Adds.diagnostics_foldl (adds_recordEntry entry) (target.hits entry) {}
  rw [ofEntry, resolveEntry_eq, reportAll, recorded]
  simp [recordEntry]

/-! ### Augmenting types -/

theorem adds_addMixin (target : Declaration) (names : AnnotationNames) (mixin : Declaration) :
    Adds (addMixin target names · mixin) := by
  by_cases named : (mixin.targetSet names).contains target.name = true
  · have resolved : Adds ((mixin.extract names).entries.foldl (resolveEntry target) ·) :=
      .foldl (adds_resolveEntry target) _
    have steps : (addMixin target names · mixin) =
        ((mixin.extract names).entries.foldl (resolveEntry target) ·) ∘
          (·.reportAll (mixin.extract names).diagnostics) :=
      funext fun a => if_pos named
    rw [steps]
    exact resolved.comp (adds_reportAll (mixin.extract names).diagnostics)
  · have idle : (addMixin target names · mixin) = id := funext fun a => if_neg named
    rw [idle]
    exact .id

/-- Whether an augmenting type names a target. -/
theorem contains_targetSet_iff {names : AnnotationNames} {mixin : Declaration}
    {target : TypeName} :
    (mixin.targetSet names).contains target = true ↔ target ∈ mixin.mixinTargets names := by
  rw [Declaration.mixinTargets, Std.ExtTreeSet.mem_toList, Std.ExtTreeSet.contains_iff_mem]

variable {names : AnnotationNames} {target : Declaration}

theorem holds_addMixin_iff {mixin : Declaration} {m : MemberKey} {k : Kind} {h : Handler} :
    (addMixin target names {} mixin).holds m k h = true ↔
      target.name ∈ mixin.mixinTargets names ∧
        ∃ entry ∈ (mixin.extract names).entries, (ofEntry target entry).holds m k h = true := by
  rw [addMixin, ← contains_targetSet_iff]
  by_cases named : (mixin.targetSet names).contains target.name = true
  · rw [if_pos named]
    refine (Adds.holds_foldl_iff (adds_resolveEntry target) _ _ m k h).trans ?_
    have silent : (({} : Augmentations).reportAll (mixin.extract names).diagnostics).holds m k h =
        false := holds_empty m k h
    simp [named, silent, ofEntry]
  · simp [named]

/-- What is held for a target is what some entry of a type that names it adds. -/
theorem holds_ofTarget_iff {mixins : List Declaration} {m : MemberKey} {k : Kind} {h : Handler} :
    (ofTarget names target mixins).holds m k h = true ↔
      ∃ mixin ∈ mixins, target.name ∈ mixin.mixinTargets names ∧
        ∃ entry ∈ (mixin.extract names).entries, (ofEntry target entry).holds m k h = true := by
  refine (Adds.holds_foldl_iff (adds_addMixin target names) mixins {} m k h).trans ?_
  simp [holds_addMixin_iff]

/-- The problems that an augmenting type meets at a target, none if it does not name it: what
cannot be read comes first. -/
def problemsOf (names : AnnotationNames) (target mixin : Declaration) : List Diagnostic :=
  if target.name ∈ mixin.mixinTargets names then
    (mixin.extract names).diagnostics ++ (mixin.extract names).entries.flatMap target.problems
  else []

/-- The problems reported for a target are those of the augmenting types, in order. -/
theorem diagnostics_ofTarget (mixins : List Declaration) :
    (ofTarget names target mixins).diagnostics = mixins.flatMap (problemsOf names target) := by
  refine (Adds.diagnostics_foldl (adds_addMixin target names) mixins {}).trans ?_
  have each (mixin : Declaration) :
      (addMixin target names {} mixin).diagnostics = problemsOf names target mixin := by
    rw [addMixin, problemsOf]
    simp only [contains_targetSet_iff]
    split
    · refine (Adds.diagnostics_foldl (adds_resolveEntry target) _ _).trans ?_
      exact congrArg (_ ++ List.flatMap · _) (funext (diagnostics_ofEntry target))
    · rfl
  simp only [each]
  rfl

/-! ### Buckets -/

/-- No bucket is empty. -/
def IsTidy (a : Augmentations) : Prop :=
  ∀ m k s, a.handlers? m k = some s → ∃ h, h ∈ s

theorem isTidy_empty : IsTidy {} := by
  intro m k s kept
  rw [handlers?_empty] at kept
  cases kept

theorem IsTidy.record {a : Augmentations} (ha : a.IsTidy) (member : MemberKey) (kind : Kind)
    (handler : Handler) : (a.record member kind handler).IsTidy := by
  intro m k s kept
  rw [handlers?_record] at kept
  split at kept
  · obtain rfl := Option.some.inj kept
    exact ⟨handler, Std.ExtTreeSet.mem_insert_self⟩
  · exact ha m k s kept

theorem IsTidy.resolveEntry {a : Augmentations} (ha : a.IsTidy) (target : Declaration)
    (entry : Entry) : (a.resolveEntry target entry).IsTidy := by
  have recorded : ((target.hits entry).foldl (recordEntry entry) a).IsTidy :=
    List.foldlRecOn _ _ ha fun b hb member _ => hb.record member.key entry.kind entry.handler
  rw [resolveEntry_eq]
  exact recorded

theorem IsTidy.addMixin {a : Augmentations} (ha : a.IsTidy) (target : Declaration)
    (names : AnnotationNames) (mixin : Declaration) : (a.addMixin target names mixin).IsTidy := by
  rw [Augmentations.addMixin]
  split
  · have reported : (a.reportAll (mixin.extract names).diagnostics).IsTidy := ha
    exact List.foldlRecOn _ _ reported fun b hb entry _ => hb.resolveEntry target entry
  · exact ha

theorem isTidy_ofTarget (names : AnnotationNames) (target : Declaration)
    (mixins : List Declaration) : (ofTarget names target mixins).IsTidy :=
  List.foldlRecOn _ _ isTidy_empty fun _ ha mixin _ => ha.addMixin target names mixin

theorem holds_iff_of_handlers? {a : Augmentations} {m : MemberKey} {k : Kind}
    {s : Std.ExtTreeSet Handler} (kept : a.handlers? m k = some s) (h : Handler) :
    a.holds m k h = true ↔ h ∈ s := by
  rw [holds, kept, Option.any_some, Std.ExtTreeSet.contains_iff_mem]

/-- Without empty buckets, a bucket is missing if nothing is held there. -/
theorem IsTidy.handlers?_eq_none {a b : Augmentations} (ha : a.IsTidy)
    (same : ∀ m k h, a.holds m k h = b.holds m k h) {m : MemberKey} {k : Kind}
    (absent : b.handlers? m k = none) : a.handlers? m k = none := by
  rw [Option.eq_none_iff_forall_ne_some]
  intro s kept
  obtain ⟨h, member⟩ := ha m k s kept
  have held := (holds_iff_of_handlers? kept h).2 member
  rw [same, holds, absent] at held
  cases held

/-- Without empty buckets, gatherings that hold the same have the same summaries. -/
theorem summaries_eq_of_holds {a b : Augmentations} (ha : a.IsTidy) (hb : b.IsTidy)
    (same : ∀ m k h, a.holds m k h = b.holds m k h) : a.summaries = b.summaries := by
  have handlers (m : MemberKey) (k : Kind) : a.handlers? m k = b.handlers? m k := by
    cases right : b.handlers? m k with
    | none => exact ha.handlers?_eq_none same right
    | some t =>
        cases left : a.handlers? m k with
        | none =>
            -- an empty bucket would hold as much as a missing one
            have missing := hb.handlers?_eq_none (fun m k h => (same m k h).symm) left
            rw [right] at missing
            cases missing
        | some s =>
            refine congrArg some (Std.ExtTreeSet.ext_mem fun h => ?_)
            rw [← holds_iff_of_handlers? left, ← holds_iff_of_handlers? right, same]
  have buckets : a.buckets = b.buckets :=
    Std.ExtTreeMap.ext_getElem? fun key => handlers key.member key.kind
  rw [summaries, summaries, buckets]

end Augmentations

/-- Annotations by their simple names, and one injector. -/
def AnnotationNames.short : AnnotationNames :=
  ⟨"Mixin", "Overwrite", "Accessor", "Invoker", ["Inject"]⟩

/-- A type that is mixed into one target, with a handler that is injected where some specifiers
say. -/
def Declaration.injecting (target name : String) (specs : List String) : Declaration where
  name := ⟨name⟩
  methods := [{
    name := "onDim"
    annotations := [({ typeName := "Inject" } : Annotation).withStrings "method" specs] }]
  annotations := [({ typeName := "Mixin" } : Annotation).withStrings "targets" [target]]

end MixinIndex
