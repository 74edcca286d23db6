import MixinIndex.Proofs.Augmentation.Gathering

/-!
# Composition

The augmentations of a target by two lists of augmenting types, one after the other, are those by
the first list extended by those by the second.  So each augmenting type has a share of its own, and
so has each finding in it: nothing that stands beside it depends on whether it is there.

## Main definitions

* `Augmentations.ofExtraction`: what an extraction adds
* `Extraction.GainsOne`: one finding more in an extraction

## Main statements

* `Augmentations.ofTarget_composes`: lists of augmenting types compose, their order and repetition
  do not show in the summaries, and one finding more adds its share
-/

namespace MixinIndex

open Augmentation

/-- One extraction has one finding more than another: an entry or a problem, at any place.  The
finding comes with what it adds. -/
inductive Extraction.GainsOne (target : Declaration) (found found' : Extraction) :
    Augmentations → Prop where
  | entry {before after : List Entry} {entry : Entry} (entries : found.entries = before ++ after)
    (entries' : found'.entries = before ++ entry :: after)
    (diagnostics : found'.diagnostics = found.diagnostics) :
    GainsOne target found found' (Augmentations.ofEntry target entry)
  | problem {before after : List Diagnostic} {problem : Diagnostic}
    (entries : found'.entries = found.entries)
    (diagnostics : found.diagnostics = before ++ after)
    (diagnostics' : found'.diagnostics = before ++ problem :: after) :
    GainsOne target found found' (({} : Augmentations).report problem)

namespace Augmentations

variable {names : AnnotationNames} {target : Declaration}

/-- What an extraction adds to any gathering. -/
def ofExtraction (target : Declaration) (found : Extraction) : Augmentations :=
  found.entries.foldl (resolveEntry target) (({} : Augmentations).reportAll found.diagnostics)

/-- The problems of an extraction come first, the shares of its entries follow. -/
theorem ofExtraction_eq (target : Declaration) (found : Extraction) :
    ofExtraction target found =
      (({} : Augmentations).reportAll found.diagnostics).extend
        (found.entries.foldl (resolveEntry target) {}) :=
  Adds.foldl (adds_resolveEntry target) found.entries _

/-- An augmenting type that names the target adds what is extracted from it. -/
theorem addMixin_of_named {mixin : Declaration}
    (named : target.name ∈ mixin.mixinTargets names) :
    addMixin target names {} mixin = ofExtraction target (mixin.extract names) :=
  if_pos (contains_targetSet_iff.2 named)

/-- Lists of augmenting types compose. -/
theorem ofTarget_append (names : AnnotationNames) (target : Declaration)
    (xs ys : List Declaration) :
    ofTarget names target (xs ++ ys) =
      (ofTarget names target xs).extend (ofTarget names target ys) := by
  rw [ofTarget, List.foldl_append]
  exact Adds.foldl (adds_addMixin target names) ys _

theorem ofTarget_cons (names : AnnotationNames) (target x : Declaration)
    (ys : List Declaration) :
    ofTarget names target (x :: ys) =
      (addMixin target names {} x).extend (ofTarget names target ys) :=
  Adds.foldl (adds_addMixin target names) ys _

/-- The summaries depend on which augmenting types there are. -/
theorem summaries_ofTarget_congr {xs ys : List Declaration} (same : ∀ x, x ∈ xs ↔ x ∈ ys) :
    (ofTarget names target xs).summaries = (ofTarget names target ys).summaries := by
  refine summaries_eq_of_holds (isTidy_ofTarget names target xs) (isTidy_ofTarget names target ys)
    fun m k h => ?_
  rw [Bool.eq_iff_iff, holds_ofTarget_iff, holds_ofTarget_iff]
  exact exists_congr fun mixin => and_congr_left' (same mixin)

/-- In another order of the augmenting types the problems come in another order. -/
theorem diagnostics_ofTarget_perm {xs ys : List Declaration} (perm : xs.Perm ys) :
    (ofTarget names target xs).diagnostics.Perm (ofTarget names target ys).diagnostics := by
  rw [diagnostics_ofTarget, diagnostics_ofTarget]
  exact perm.flatMap_right _

theorem reportAll_append (before after : List Diagnostic) :
    ({} : Augmentations).reportAll (before ++ after) =
      (({} : Augmentations).reportAll before).extend (({} : Augmentations).reportAll after) :=
  rfl

/-- One finding more adds its share, in between of what the others add. -/
theorem ofExtraction_gainsOne {found found' : Extraction} {share : Augmentations}
    (gains : found.GainsOne target found' share) :
    ∃ before after : Augmentations, ofExtraction target found = before.extend after ∧
      ofExtraction target found' = (before.extend share).extend after := by
  cases gains with
  | @entry before after entry entries entries' diagnostics =>
      have rest := Adds.foldl (adds_resolveEntry target) after
      have added := adds_resolveEntry target entry
      refine ⟨ofExtraction target ⟨before, found.diagnostics⟩,
        after.foldl (resolveEntry target) {}, ?_, ?_⟩
      · rw [ofExtraction, entries, List.foldl_append]
        exact rest _
      · rw [ofExtraction, entries', diagnostics, List.foldl_append, List.foldl_cons]
        exact (rest _).trans (congrArg (extend · _) (added _))
  | @problem before after problem entries diagnostics diagnostics' =>
      -- what cannot be read is reported first, so all entries stand behind the problem
      let rest := ofExtraction target ⟨found.entries, after⟩
      refine ⟨({} : Augmentations).reportAll before, rest, ?_, ?_⟩
      · rw [ofExtraction_eq, diagnostics, reportAll_append, extend_assoc,
          ← ofExtraction_eq target ⟨found.entries, after⟩]
      · rw [ofExtraction_eq, entries, diagnostics', List.append_cons, reportAll_append,
          extend_assoc, ← ofExtraction_eq target ⟨found.entries, after⟩]
        rfl

/-- Lists of augmenting types compose, problems included.  Neither order nor repetition shows in the
summaries, and the order shows in the problems as their order alone.  Without an augmenting type, or
without one of its findings, what the others add is the same. -/
theorem ofTarget_composes (names : AnnotationNames) (target : Declaration) :
    (∀ xs ys, ofTarget names target (xs ++ ys) =
      (ofTarget names target xs).extend (ofTarget names target ys)) ∧
    (∀ xs ys : List Declaration, (∀ x, x ∈ xs ↔ x ∈ ys) →
      (ofTarget names target xs).summaries = (ofTarget names target ys).summaries) ∧
    (∀ xs ys : List Declaration, xs.Perm ys →
      (ofTarget names target xs).diagnostics.Perm (ofTarget names target ys).diagnostics) ∧
    (∀ xs x ys, ofTarget names target (xs ++ x :: ys) =
      ((ofTarget names target xs).extend (ofTarget names target [x])).extend
        (ofTarget names target ys)) ∧
    ∀ (xs ys : List Declaration) (x x' : Declaration) (share : Augmentations),
      target.name ∈ x.mixinTargets names → target.name ∈ x'.mixinTargets names →
      (x.extract names).GainsOne target (x'.extract names) share →
      ∃ before after : Augmentations,
        ofTarget names target (xs ++ x :: ys) = before.extend after ∧
        ofTarget names target (xs ++ x' :: ys) = (before.extend share).extend after := by
  refine ⟨ofTarget_append names target, fun xs ys => summaries_ofTarget_congr,
    fun xs ys => diagnostics_ofTarget_perm, fun xs x ys => ?_,
    fun xs ys x x' share named named' gains => ?_⟩
  · rw [List.append_cons, ofTarget_append, ofTarget_append]
  · obtain ⟨before, after, without, withIt⟩ := ofExtraction_gainsOne gains
    refine ⟨(ofTarget names target xs).extend before, after.extend (ofTarget names target ys),
      ?_, ?_⟩
    · rw [ofTarget_append, ofTarget_cons, addMixin_of_named named, without]
      simp only [extend_assoc]
    · rw [ofTarget_append, ofTarget_cons, addMixin_of_named named', withIt]
      simp only [extend_assoc]

/-- A handler is injected into a method and, before that, where there is none. -/
theorem ofTarget_composes_glow :
    let target : Declaration := { name := ⟨"x.Lamp"⟩, methods := [{ name := "dim" }] }
    let x := Declaration.injecting "x.Lamp" "q.A" ["dim"]
    let x' := Declaration.injecting "x.Lamp" "q.A" ["glow", "dim"]
    let y := Declaration.injecting "x.Lamp" "q.B" ["dim("]
    (∃ share before after : Augmentations,
      share.diagnostics = [target.notFound "glow"] ∧ share.summaries = [] ∧
        ofTarget .short target [y, x] = before.extend after ∧
        ofTarget .short target [y, x'] = (before.extend share).extend after) ∧
      (ofTarget .short target [y, x']).summaries = (ofTarget .short target [x', y, x']).summaries ∧
      (ofTarget .short target [y, x']).diagnostics.Perm
        (ofTarget .short target [x', y]).diagnostics := by
  intro target x x' y
  obtain ⟨-, alike, perm, -, gains⟩ := ofTarget_composes .short target
  have named : target.name ∈ x.mixinTargets .short := by decide +kernel
  have named' : target.name ∈ x'.mixinTargets .short := by decide +kernel
  let glow : Entry :=
    { kind := .injector "Inject"
      handler := ⟨⟨"q.A"⟩, "onDim", [], .void⟩
      target := .specifier ⟨none, some "glow", none, .implicit, "glow"⟩ }
  have withIt : (x'.extract .short).entries = [] ++ glow :: (x.extract .short).entries := by
    decide +kernel
  have silent : (x'.extract .short).diagnostics = (x.extract .short).diagnostics := by
    decide +kernel
  have found : (x.extract .short).GainsOne target (x'.extract .short) (ofEntry target glow) :=
    .entry (List.nil_append _).symm withIt silent
  obtain ⟨before, after, without, withIt⟩ := gains [y] [] x x' _ named named' found
  refine ⟨⟨_, before, after, ?_, ?_, without, withIt⟩, alike _ _ ?_, perm _ _ ?_⟩
  · decide +kernel
  · decide +kernel
  · simp [or_comm]
  · exact .swap ..

end Augmentations

end MixinIndex
