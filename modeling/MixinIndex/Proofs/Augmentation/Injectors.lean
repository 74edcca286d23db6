import Mathlib.Algebra.Order.Ring.Nat
import MixinIndex.Proofs.Augmentation.Uses

/-!
# Injectors and their names

Injectors are configured by qualified names, and an annotation may be written with such a name or
with the last segment of it.  So two configured names stand for the same annotations as soon as they
end in the same segment, and then each of these annotations is processed once for each of the names.

## Main definitions

* `Annotation.methodTexts`: the specifiers of an injector annotation
* `Extraction.ofInjectors`: what is extracted from a method for its injectors
* `Extraction.size`: how many entries and reports there are

## Main statements

* `Annotation.simpleNameOf_eq_of_isNamed`: all names of an annotation end in the same segment
* `Extraction.size_ofInjectors`: an entry or report for each specifier, under each of the names
* `Extraction.processedOnce_iff`: when no annotation is processed twice
-/

namespace MixinIndex

open Augmentation Text

/-- Whether a kind is an injector's. -/
def Augmentation.Kind.isInjector : Kind → Bool
  | .injector _ => true
  | _ => false

namespace Annotation

/-! ### Simple names -/

theorem afterLast_eq_self {sep : Char} {cs : List Char} (absent : sep ∉ cs) :
    afterLast sep cs = cs := by
  rw [afterLast, splitLast?_eq_none.2 absent]

theorem notMem_afterLast (sep : Char) (cs : List Char) : sep ∉ afterLast sep cs := by
  rw [afterLast]
  cases split : splitLast? sep cs with
  | none => exact splitLast?_eq_none.1 split
  | some parts => exact (splitLast?_eq_some.1 split).2

/-- A simple name is its own simple name. -/
theorem simpleNameOf_simpleNameOf (qualified : String) :
    simpleNameOf (simpleNameOf qualified) = simpleNameOf qualified := by
  rw [simpleNameOf, simpleNameOf, String.toList_ofList, afterLast_eq_self (notMem_afterLast _ _)]

/-- All names that an annotation goes by end in the same segment. -/
theorem simpleNameOf_eq_of_isNamed {a : Annotation} {qualified : String}
    (isNamed : a.isNamed qualified = true) : simpleNameOf qualified = simpleNameOf a.typeName := by
  unfold Annotation.isNamed at isNamed
  rw [Bool.or_eq_true, beq_iff_eq, beq_iff_eq] at isNamed
  rcases isNamed with written | simple
  · rw [written]
  · rw [simple, simpleNameOf_simpleNameOf]

/-- An annotation written with its simple name goes by every name that ends in it. -/
theorem isNamed_of_simple {a : Annotation} {qualified : String}
    (simple : a.typeName = simpleNameOf qualified) : a.isNamed qualified = true := by
  unfold Annotation.isNamed
  rw [simple, beq_self_eq_true, Bool.or_true]

/-- The specifiers of an injector annotation. -/
def methodTexts (a : Annotation) : List String := (a.strings? "method").getD []

end Annotation

namespace AnnotationNames

open Annotation

/-- No two of the configured injectors end in the same segment. -/
def IsUnambiguous (names : AnnotationNames) : Prop := (names.injectors.map simpleNameOf).Nodup

instance (names : AnnotationNames) : Decidable names.IsUnambiguous :=
  inferInstanceAs (Decidable (List.Nodup _))

/-- The configured injectors that an annotation stands for. -/
def injectorsOf (names : AnnotationNames) (a : Annotation) : List String :=
  names.injectors.filter a.isNamed

variable {names : AnnotationNames}

theorem IsUnambiguous.length_injectorsOf_le (unambiguous : names.IsUnambiguous) (a : Annotation) :
    (names.injectorsOf a).length ≤ 1 := by
  have same : ∀ injector ∈ names.injectorsOf a, simpleNameOf injector = simpleNameOf a.typeName :=
    fun injector mem => simpleNameOf_eq_of_isNamed (List.mem_filter.1 mem).2
  have apart : ((names.injectorsOf a).map simpleNameOf).Nodup :=
    unambiguous.sublist (List.filter_sublist.map simpleNameOf)
  rw [List.map_congr_left same, List.map_const'] at apart
  exact List.nodup_replicate.1 apart

/-- The annotation that is written with a segment stands for all names that end in it. -/
theorem IsUnambiguous.of_length_injectorsOf_le
    (once : ∀ segment, (names.injectorsOf { typeName := segment }).length ≤ 1) :
    names.IsUnambiguous := by
  rw [IsUnambiguous, List.nodup_iff_count_le_one]
  intro segment
  have within : (names.injectors.filter (simpleNameOf · == segment)).Sublist
      (names.injectorsOf { typeName := segment }) := by
    refine List.monotone_filter_right names.injectors fun injector ends => ?_
    exact isNamed_of_simple (beq_iff_eq.1 ends).symm
  calc (names.injectors.map simpleNameOf).count segment
      = (names.injectors.filter (simpleNameOf · == segment)).length := by
        rw [List.count, List.countP_map, List.countP_eq_length_filter]
        rfl
    _ ≤ 1 := within.length_le.trans (once segment)

end AnnotationNames

namespace Extraction

open Annotation

/-- The number of entries and reports. -/
def size (e : Extraction) : Nat := e.entries.length + e.diagnostics.length

/-- What is extracted from a method for its injectors. -/
def ofInjectors (names : AnnotationNames) (augmentingType : TypeName) (m : Member) : Extraction :=
  concat (names.injectors.map (ofInjector (.ofMember augmentingType m) m))

variable {names : AnnotationNames} {augmentingType : TypeName} {m : Member}

theorem size_concat (parts : List Extraction) :
    (concat parts).size = (parts.map size).sum := by
  induction parts with
  | nil => rfl
  | cons part parts ih =>
      rw [List.map_cons, List.sum_cons, ← ih]
      simp only [size, concat_cons, append, List.length_append]
      omega

theorem size_answer (use : Use) (handler : Handler) (text : String) :
    (use.answer handler text).size = 1 := by
  rcases use.isAnswer_answer handler text with ⟨target, -, isSingle⟩ | ⟨problem, -, -, isReport⟩
  · rw [isSingle]
    rfl
  · rw [isReport]
    rfl

/-- The number of specifiers of the annotation that an injector finds. -/
def foundTexts (annotations : List Annotation) (injector : String) : Nat :=
  ((findAnnotation? annotations injector).map fun a => a.methodTexts.length).getD 0

/-- One entry or report for each specifier of the annotation that is found. -/
theorem size_ofInjector (handler : Handler) (injector : String) :
    (ofInjector handler m injector).size = foundTexts m.annotations injector := by
  rw [ofInjector, foundTexts, Member.annotation?]
  cases findAnnotation? m.annotations injector with
  | none => rfl
  | some a =>
      have single : ∀ text ∈ a.methodTexts,
          (ofSpecifier (.ofInjector injector) handler text).size = 1 :=
        fun text _ => size_answer (.injector injector) handler text
      calc (concat (a.methodTexts.map (ofSpecifier (.ofInjector injector) handler))).size
          = (a.methodTexts.map fun text =>
              (ofSpecifier (.ofInjector injector) handler text).size).sum := by
            rw [size_concat, List.map_map]
            rfl
        _ = a.methodTexts.length := by
            rw [List.map_congr_left single, List.map_const', List.sum_replicate_nat, Nat.mul_one]

theorem size_ofInjectors :
    (ofInjectors names augmentingType m).size =
      (names.injectors.map (foundTexts m.annotations)).sum := by
  rw [ofInjectors, size_concat, List.map_map]
  exact congrArg List.sum (List.map_congr_left fun injector _ => size_ofInjector _ injector)

theorem foundTexts_cons (a : Annotation) (annotations : List Annotation) (injector : String) :
    foundTexts (a :: annotations) injector =
      if a.isNamed injector then a.methodTexts.length else foundTexts annotations injector := by
  rw [foundTexts, findAnnotation?, List.find?_cons]
  cases a.isNamed injector with
  | true => rfl
  | false => rfl

/-- One more annotation in front is found by the injectors that it stands for, and hides the later
ones from these. -/
theorem sum_foundTexts_cons_le (a : Annotation) (annotations : List Annotation)
    (injectors : List String) :
    (injectors.map (foundTexts (a :: annotations))).sum ≤
      (injectors.filter a.isNamed).length * a.methodTexts.length +
        (injectors.map (foundTexts annotations)).sum := by
  induction injectors with
  | nil => exact Nat.zero_le _
  | cons injector injectors ih =>
      rw [List.map_cons, List.sum_cons, List.map_cons, List.sum_cons, foundTexts_cons]
      cases isNamed : a.isNamed injector with
      | true =>
          rw [if_pos rfl, List.filter_cons_of_pos isNamed, List.length_cons, Nat.succ_mul]
          omega
      | false =>
          rw [if_neg Bool.false_ne_true, List.filter_cons_of_neg (by simp [isNamed])]
          omega

/-- If no annotation stands for two injectors, the specifiers found are at most those written. -/
theorem sum_foundTexts_le (once : ∀ a, (names.injectorsOf a).length ≤ 1)
    (annotations : List Annotation) :
    (names.injectors.map (foundTexts annotations)).sum ≤
      (annotations.map fun a => a.methodTexts.length).sum := by
  induction annotations with
  | nil =>
      have nothing : ∀ injector ∈ names.injectors, foundTexts [] injector = 0 := fun _ _ => rfl
      rw [List.map_congr_left nothing, List.map_const', List.sum_replicate_nat, Nat.mul_zero]
      exact Nat.zero_le _
  | cons a annotations ih =>
      calc (names.injectors.map (foundTexts (a :: annotations))).sum
          ≤ (names.injectorsOf a).length * a.methodTexts.length +
              (names.injectors.map (foundTexts annotations)).sum :=
            sum_foundTexts_cons_le a annotations names.injectors
        _ ≤ 1 * a.methodTexts.length + (annotations.map fun a => a.methodTexts.length).sum :=
            Nat.add_le_add (Nat.mul_le_mul_right _ (once a)) ih
        _ = ((a :: annotations).map fun a => a.methodTexts.length).sum := by
            rw [Nat.one_mul, List.map_cons, List.sum_cons]

/-- The entries of a method that are injectors are found for its injectors. -/
theorem filter_injectors_ofMethod :
    (ofMethod names augmentingType m).entries.filter (fun entry => entry.kind.isInjector) =
      (ofInjectors names augmentingType m).entries := by
  have uses : (Use.all names).filter (fun use => use.kind.isInjector) =
      names.injectors.map .injector := by
    have isInjector : ∀ use ∈ names.injectors.map Use.injector, use.kind.isInjector = true := by
      intro use mem
      obtain ⟨name, -, rfl⟩ := List.mem_map.1 mem
      rfl
    rw [Use.all, List.filter_append, List.filter_eq_self.2 isInjector]
    rfl
  rw [filter_entries_ofMethod, uses, ofInjectors, entries_concat, List.flatMap_map,
    List.flatMap_map]
  rfl

theorem diagnostics_ofMethod_eq_append :
    (ofMethod names augmentingType m).diagnostics =
      (ofInvoker names (.ofMember augmentingType m) m).diagnostics ++
        (ofInjectors names augmentingType m).diagnostics := by
  rw [diagnostics_ofMethod_eq, ofInjectors, diagnostics_concat, List.flatMap_map]

/-! ### Twice or once -/

/-- A method that has one annotation with one specifier, which is answered to once for each of the
injectors that the annotation stands for. -/
theorem size_ofInjectors_singleton {a : Annotation} (single : a.methodTexts.length = 1)
    (annotated : m.annotations = [a]) :
    (ofInjectors names augmentingType m).size = (names.injectorsOf a).length := by
  rw [size_ofInjectors, annotated, AnnotationNames.injectorsOf]
  induction names.injectors with
  | nil => rfl
  | cons injector injectors ih =>
      rw [List.map_cons, List.sum_cons, ih, foundTexts_cons, single, List.filter_cons]
      cases a.isNamed injector with
      | true =>
          rw [if_pos rfl, if_pos rfl, List.length_cons, Nat.add_comm]
      | false =>
          rw [if_neg Bool.false_ne_true, if_neg Bool.false_ne_true]
          exact Nat.zero_add _

/-- What is extracted from a method for its injectors is the part of what is extracted from it that
has the kinds of injectors, with the reports that follow the one on the invoker; and it is one entry
or report for each injector and each specifier of the first annotation that the injector finds.

No annotation is processed under two injectors exactly if the configured names end in different
segments; only then are there never more entries and reports than specifiers in the annotations. -/
theorem processedOnce_iff (names : AnnotationNames) :
    (∀ (augmentingType : TypeName) (m : Member),
      let own := ofMethod names augmentingType m
      let injected := ofInjectors names augmentingType m
      own.entries.filter (fun entry => entry.kind.isInjector) = injected.entries ∧
      own.diagnostics =
        (ofInvoker names (.ofMember augmentingType m) m).diagnostics ++ injected.diagnostics ∧
      injected.size = (names.injectors.map (foundTexts m.annotations)).sum) ∧
    (names.IsUnambiguous ↔ ∀ a : Annotation, (names.injectorsOf a).length ≤ 1) ∧
    (names.IsUnambiguous ↔ ∀ (augmentingType : TypeName) (m : Member),
      (ofInjectors names augmentingType m).size ≤
        (m.annotations.map fun a => a.methodTexts.length).sum) := by
  refine ⟨fun augmentingType m => ⟨filter_injectors_ofMethod, diagnostics_ofMethod_eq_append,
    size_ofInjectors⟩, ?_, ?_⟩
  · exact ⟨fun unambiguous => unambiguous.length_injectorsOf_le,
      fun once => .of_length_injectorsOf_le fun segment => once _⟩
  · constructor
    · intro unambiguous augmentingType m
      rw [size_ofInjectors]
      exact sum_foundTexts_le unambiguous.length_injectorsOf_le m.annotations
    · intro bounded
      refine .of_length_injectorsOf_le fun segment => ?_
      let a := ({ typeName := segment } : Annotation).withString "method" ""
      have single : a.methodTexts.length = 1 := by
        rw [methodTexts, strings?_withString]
        rfl
      calc (names.injectorsOf { typeName := segment }).length
          = (ofInjectors names ⟨""⟩ { name := "", annotations := [a] }).size :=
            (size_ofInjectors_singleton single rfl).symm
        _ ≤ a.methodTexts.length + 0 := bounded ⟨""⟩ { name := "", annotations := [a] }
        _ = 1 := single

/-- One annotation by both of its names, which are different texts and so pass for two injectors.
The only specifier of a method is reported twice. -/
theorem processedOnce_iff_spellings :
    let names : AnnotationNames :=
      { injectors := ["Inject", annotationPackage ++ "injection.Inject"] }
    let inject := ({ typeName := "Inject" } : Annotation).withString "method" "tick("
    let on : Member := { name := "on", annotations := [inject] }
    let injected := ofInjectors names ⟨"p.Own"⟩ on
    ({ annotations := names } : Config).validate = .ok () ∧ inject.methodTexts = ["tick("] ∧
      names.injectorsOf inject = names.injectors ∧ ¬ names.IsUnambiguous ∧
      injected.entries = [] ∧ (ofMethod names ⟨"p.Own"⟩ on).diagnostics.length = 2 := by
  intro names inject on injected
  have texts : inject.methodTexts = ["tick("] := by decide +kernel
  have both : names.injectorsOf inject = names.injectors := by decide +kernel
  have noEntry : injected.entries = [] := by decide +kernel
  obtain ⟨extracted, claimed, -⟩ := processedOnce_iff names
  obtain ⟨-, reports, sizes⟩ := extracted ⟨"p.Own"⟩ on
  refine ⟨by decide +kernel, texts, both, fun unambiguous => ?_, noEntry, ?_⟩
  · have once := claimed.1 unambiguous inject
    rw [both] at once
    exact absurd once (by decide)
  · have found : (names.injectors.map (foundTexts on.annotations)).sum = 2 := by decide +kernel
    have noInvoker : (ofInvoker names (.ofMember ⟨"p.Own"⟩ on) on).diagnostics = [] := by
      decide +kernel
    rw [size, noEntry, List.length_nil, Nat.zero_add, found] at sizes
    rw [reports, noInvoker, List.nil_append]
    exact sizes

/-- The injectors that are configured by default end in different segments. -/
example : ({} : AnnotationNames).IsUnambiguous := by decide

end Extraction

end MixinIndex
