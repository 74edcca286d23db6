import MixinIndex.Proofs.Augmentation.Accounting
import MixinIndex.Proofs.Specifier.Grammar

/-!
# Uses of handlers

Which texts the annotations of a method aim at, and that none of them is lost.  A method is looked
at once for each kind of annotation; what is found is one entry, or one report, for each text that
the first annotation of this kind aims at.

## Main definitions

* `Derives`: the handler's name is one of the words followed by the target's name
* `Augmentation.Use`: what a method can be used for, by its annotations
* `Augmentation.Use.Aims`: the texts that an annotation aims at
* `Augmentation.Use.texts`: the same texts in order, as often as they are given
* `Extraction.IsAnswer`: one entry whose target is the text, or one report on it
* `Augmentation.Use.answer`: what becomes of a text that an annotation aims at

## Main statements

* `derivedName?_eq_some_iff`: the name that is derived is the one that the handler's name implies
* `Augmentation.Use.isAnswer_answer`: a text becomes an entry or a report
* `Extraction.ofUse_of_annotation?_eq_some`: each text is answered once, in order
* `Declaration.extract_contributes`: an extraction consists of the answers to all texts aimed at
-/

namespace MixinIndex

open Augmentation Text

/-! ### Names implied by handlers -/

/-- The handler's name is one of the words followed by at least two characters, which are the
target's name but for the case of the first. -/
def Derives (words : List String) (handler target : String) : Prop :=
  ∃ word ∈ words, ∃ first rest, rest ≠ [] ∧ (∀ c ∈ first :: rest, isHandlerChar c = true) ∧
    handler.toList = word.toList ++ first :: rest ∧ target = String.ofList (lower first ++ rest)

/-- No word is the start of another one, so it does not matter which is tried first. -/
def IsPrefixFree (words : List String) : Prop :=
  words.Pairwise fun word other =>
    ¬ word.toList <+: other.toList ∧ ¬ other.toList <+: word.toList

instance (words : List String) : Decidable (IsPrefixFree words) :=
  inferInstanceAs (Decidable (words.Pairwise _))

/-- What follows a word at the start of a text. -/
theorem afterWord?_eq_some_iff {words : List String} (prefixFree : IsPrefixFree words)
    {cs rest : List Char} :
    afterWord? words cs = some rest ↔ ∃ word ∈ words, cs = word.toList ++ rest := by
  induction words with
  | nil => simp [afterWord?]
  | cons word words ih =>
      obtain ⟨apart, others⟩ := List.pairwise_cons.1 prefixFree
      rw [afterWord?, List.findSome?_cons]
      by_cases starts : word.toList <+: cs
      · obtain ⟨after, rfl⟩ := starts
        have notOther : ∀ other ∈ words, word.toList ++ after ≠ other.toList ++ rest := by
          intro other mem same
          rcases List.prefix_or_prefix_of_prefix (List.prefix_append word.toList after)
            (same ▸ List.prefix_append other.toList rest) with within | within
          · exact (apart other mem).1 within
          · exact (apart other mem).2 within
        simp only [List.isPrefixOf_iff_prefix, List.prefix_append, if_true,
          ← String.length_toList, List.drop_left, Option.some.injEq, List.exists_mem_cons_iff,
          List.append_cancel_left_eq]
        constructor
        · exact fun same => .inl same
        · rintro (same | ⟨other, mem, same⟩)
          · exact same
          · exact absurd same (notOther other mem)
      · have notWord : ∀ rest, cs ≠ word.toList ++ rest := by
          rintro rest rfl
          exact starts (List.prefix_append _ _)
        rw [if_neg (by simpa using starts)]
        simp only [List.exists_mem_cons_iff, notWord, false_or]
        exact ih others

/-- The name that is derived is the one that the handler's name implies. -/
theorem derivedName?_eq_some_iff {words : List String} (prefixFree : IsPrefixFree words)
    {handler target : String} :
    derivedName? words handler = some target ↔ Derives words handler target := by
  rw [derivedName?]
  constructor
  · intro derived
    split at derived
    · rename_i first second rest after
      split_ifs at derived with allowed
      obtain ⟨word, mem, split⟩ := (afterWord?_eq_some_iff prefixFree).1 after
      exact ⟨word, mem, first, second :: rest, List.cons_ne_nil _ _, List.all_eq_true.1 allowed,
        split, (Option.some.inj derived).symm⟩
    · cases derived
  · rintro ⟨word, mem, first, _ | ⟨second, rest⟩, nonempty, allowed, split, rfl⟩
    · exact absurd rfl nonempty
    · rw [(afterWord?_eq_some_iff prefixFree).2 ⟨word, mem, split⟩]
      exact if_pos (List.all_eq_true.2 allowed)

theorem isPrefixFree_accessorWords : IsPrefixFree accessorWords := by decide

theorem isPrefixFree_invokerWords : IsPrefixFree invokerWords := by decide

/-! ### Names given by annotations -/

namespace Annotation

variable {a : Annotation}

theorem explicitValue?_eq_some_iff {value : String} :
    a.explicitValue? = some value ↔ a.string? "value" = some value ∧ value ≠ "" := by
  simp [explicitValue?, Option.filter_eq_some_iff]

theorem explicitValue?_eq_none_iff :
    a.explicitValue? = none ↔ ∀ value, a.string? "value" = some value → value = "" := by
  simp [explicitValue?, Option.filter_eq_none_iff]

end Annotation

/-- An annotation that stands alone is found if it has the name. -/
theorem findAnnotation?_singleton {a : Annotation} {qualified : String}
    (isNamed : a.isNamed qualified = true) : findAnnotation? [a] qualified = some a :=
  List.find?_cons_of_pos isNamed

/-- A specifier keeps the text that it was read from. -/
theorem Specifier.raw_of_parseText {text : String} {spec : Specifier}
    (read : parseText text = .ok spec) : spec.raw = text := by
  rw [parseText, Except.mapError_eq_ok_iff, parse_eq_ok_iff] at read
  obtain ⟨pieces, spells⟩ := read
  exact spells.raw

/-! ### Texts aimed at -/

namespace Augmentation

/-- What a method can be used for.  Each of the injectors is a use of its own. -/
inductive Use where
  | overwrite
  | accessor
  | invoker
  | injector (name : String)
  deriving DecidableEq

namespace Use

open Annotation (explicitValue?_eq_none_iff explicitValue?_eq_some_iff)

/-- The uses that are looked for, in this order. -/
def all (names : AnnotationNames) : List Use :=
  [overwrite, accessor, invoker] ++ names.injectors.map injector

/-- The annotation that marks a use. -/
def annotation (names : AnnotationNames) : Use → String
  | overwrite => names.overwrite
  | accessor => names.accessor
  | invoker => names.invoker
  | injector name => name

/-- The kind of the entries of a use. -/
def kind : Use → Kind
  | overwrite => .overwrite
  | accessor => .accessor
  | invoker => .invoker
  | injector name => .ofInjector name

/-- The texts that an annotation of a use aims at.  An accessor or invoker goes by the text under
`value`, and without one by the name of its handler. -/
inductive Aims (handler : Handler) (a : Annotation) : Use → String → Prop
  | overwrite : Aims handler a .overwrite handler.name
  | accessor {field : String} (given : a.string? "value" = some field) (nonempty : field ≠ "") :
      Aims handler a .accessor field
  | derivedAccessor {field : String}
      (unnamed : ∀ value, a.string? "value" = some value → value = "")
      (derives : Derives accessorWords handler.name field) :
      Aims handler a .accessor field
  | invoker {name : String} (given : a.string? "value" = some name) (nonempty : name ≠ "")
      (bare : '(' ∉ name.toList) :
      Aims handler a .invoker (name ++ handler.descriptor.text)
  | fullInvoker {text : String} (given : a.string? "value" = some text)
      (described : '(' ∈ text.toList) :
      Aims handler a .invoker text
  | derivedInvoker {name : String}
      (unnamed : ∀ value, a.string? "value" = some value → value = "")
      (derives : Derives invokerWords handler.name name) :
      Aims handler a .invoker (name ++ handler.descriptor.text)
  | injector {name text : String} {texts : List String} (given : a.strings? "method" = some texts)
      (mem : text ∈ texts) :
      Aims handler a (.injector name) text

/-- The texts that an annotation of a use aims at, in order. -/
def texts (handler : Handler) (a : Annotation) : Use → List String
  | overwrite => [handler.name]
  | accessor => (accessorTarget? a handler.name).toList
  | invoker => (invokerTarget? a handler).toList
  | injector _ => (a.strings? "method").getD []

theorem accessorTarget?_eq_some_iff {handler : Handler} {a : Annotation} {field : String} :
    accessorTarget? a handler.name = some field ↔ Aims handler a accessor field := by
  rw [accessorTarget?]
  constructor
  · intro target
    split at target
    · rename_i given
      obtain rfl := Option.some.inj target
      obtain ⟨given, nonempty⟩ := explicitValue?_eq_some_iff.1 given
      exact .accessor given nonempty
    · rename_i unnamed
      exact .derivedAccessor (explicitValue?_eq_none_iff.1 unnamed)
        ((derivedName?_eq_some_iff isPrefixFree_accessorWords).1 target)
  · intro aims
    cases aims with
    | accessor given nonempty =>
        rw [explicitValue?_eq_some_iff.2 ⟨given, nonempty⟩]
    | derivedAccessor unnamed derives =>
        rw [explicitValue?_eq_none_iff.2 unnamed]
        exact (derivedName?_eq_some_iff isPrefixFree_accessorWords).2 derives

theorem invokerTarget?_eq_some_iff {handler : Handler} {a : Annotation} {text : String} :
    invokerTarget? a handler = some text ↔ Aims handler a invoker text := by
  rw [invokerTarget?]
  constructor
  · intro target
    split at target
    · rename_i given
      obtain ⟨given, nonempty⟩ := explicitValue?_eq_some_iff.1 given
      split_ifs at target with described
      · obtain rfl := Option.some.inj target
        exact .fullInvoker given described
      · obtain rfl := Option.some.inj target
        exact .invoker given nonempty described
    · rename_i unnamed
      obtain ⟨name, derived, rfl⟩ := Option.map_eq_some_iff.1 target
      exact .derivedInvoker (explicitValue?_eq_none_iff.1 unnamed)
        ((derivedName?_eq_some_iff isPrefixFree_invokerWords).1 derived)
  · intro aims
    cases aims with
    | invoker given nonempty bare =>
        rw [explicitValue?_eq_some_iff.2 ⟨given, nonempty⟩]
        exact if_neg bare
    | fullInvoker given described =>
        have nonempty : text ≠ "" := by
          rintro rfl
          cases described
        rw [explicitValue?_eq_some_iff.2 ⟨given, nonempty⟩]
        exact if_pos described
    | derivedInvoker unnamed derives =>
        rw [explicitValue?_eq_none_iff.2 unnamed,
          (derivedName?_eq_some_iff isPrefixFree_invokerWords).2 derives]
        rfl

theorem mem_texts_iff {use : Use} {handler : Handler} {a : Annotation} {text : String} :
    text ∈ use.texts handler a ↔ use.Aims handler a text := by
  cases use with
  | overwrite =>
      rw [texts, List.mem_singleton]
      constructor
      · rintro rfl
        exact .overwrite
      · rintro ⟨⟩
        rfl
  | accessor => rw [texts, Option.mem_toList, accessorTarget?_eq_some_iff]
  | invoker => rw [texts, Option.mem_toList, invokerTarget?_eq_some_iff]
  | injector name =>
      rw [texts]
      constructor
      · intro mem
        cases given : a.strings? "method" with
        | none =>
            rw [given] at mem
            cases mem
        | some texts =>
            rw [given] at mem
            exact .injector given mem
      · intro aims
        cases aims with
        | injector given mem =>
            rw [given]
            exact mem

/-- Injectors alone can aim at several texts. -/
theorem length_texts_le {use : Use} (single : ∀ name, use ≠ injector name) (handler : Handler)
    (a : Annotation) : (use.texts handler a).length ≤ 1 := by
  cases use with
  | overwrite => exact Nat.le_refl 1
  | accessor => exact Option.length_toList_le
  | invoker => exact Option.length_toList_le
  | injector name => exact absurd rfl (single name)

end Use

end Augmentation

/-! ### Answers -/

namespace Extraction

/-- One entry of a kind whose target is the text, or one report on the text; in either case nothing
else. -/
def IsAnswer (kind : Kind) (handler : Handler) (text : String) (found : Extraction) : Prop :=
  (∃ target : Target, target.display = text ∧ found = .single kind handler target) ∨
  ∃ problem : Diagnostic, problem.kind = .syntaxError ∧ problem.subject = text ∧
    found = { diagnostics := [problem] }

theorem isAnswer_ofSpecifier (kind : Kind) (handler : Handler) (text : String) :
    IsAnswer kind handler text (ofSpecifier kind handler text) := by
  rw [ofSpecifier]
  cases parsed : Specifier.parseText text with
  | ok spec => exact .inl ⟨.specifier spec, Specifier.raw_of_parseText parsed, rfl⟩
  | error e =>
      have reported : unreadable? handler text = some (unreadable handler e) := by
        rw [unreadable?, parsed]
      obtain ⟨isSyntax, isSubject⟩ := unreadable?_eq_some reported
      exact .inr ⟨_, isSyntax, isSubject, rfl⟩

end Extraction

namespace Augmentation.Use

/-- What becomes of a text that a use aims at: overwriting methods and accessors take it as a name,
invokers and injectors read it as a specifier. -/
def answer (handler : Handler) : Use → String → Extraction
  | overwrite, text => .single .overwrite handler (.name text)
  | accessor, text => .single .accessor handler (.name text)
  | invoker, text => .ofSpecifier .invoker handler text
  | injector name, text => .ofSpecifier (.ofInjector name) handler text

theorem isAnswer_answer (use : Use) (handler : Handler) (text : String) :
    Extraction.IsAnswer use.kind handler text (use.answer handler text) := by
  cases use with
  | overwrite => exact .inl ⟨.name text, rfl, rfl⟩
  | accessor => exact .inl ⟨.name text, rfl, rfl⟩
  | invoker => exact Extraction.isAnswer_ofSpecifier .invoker handler text
  | injector name => exact Extraction.isAnswer_ofSpecifier (.ofInjector name) handler text

theorem kind_of_mem_answer {use : Use} {handler : Handler} {text : String} {entry : Entry}
    (mem : entry ∈ (use.answer handler text).entries) : entry.kind = use.kind := by
  rcases use.isAnswer_answer handler text with ⟨target, -, isSingle⟩ | ⟨problem, -, -, isReport⟩
  · rw [isSingle] at mem
    obtain rfl := List.mem_singleton.1 mem
    rfl
  · rw [isReport] at mem
    cases mem

end Augmentation.Use

/-! ### Extractions -/

namespace Extraction

/-- What is extracted from a method for one of its uses. -/
def ofUse (names : AnnotationNames) (augmentingType : TypeName) (m : Member) : Use → Extraction
  | .overwrite => ofOverwrite names (.ofMember augmentingType m) m
  | .accessor => ofAccessor names (.ofMember augmentingType m) m
  | .invoker => ofInvoker names (.ofMember augmentingType m) m
  | .injector name => ofInjector (.ofMember augmentingType m) m name

variable {names : AnnotationNames} {augmentingType : TypeName} {m : Member}

theorem concat_singleton (part : Extraction) : concat [part] = part := by
  simp [append]

/-- A method is extracted use by use. -/
theorem ofMethod_eq :
    ofMethod names augmentingType m =
      concat ((Use.all names).map (ofUse names augmentingType m)) := by
  rw [ofMethod, Use.all, List.map_append, List.map_map]
  rfl

theorem ofUse_of_annotation?_eq_none {use : Use}
    (unmarked : m.annotation? (use.annotation names) = none) :
    ofUse names augmentingType m use = {} := by
  cases use with
  | overwrite => rw [ofUse, ofOverwrite, show m.annotation? names.overwrite = none from unmarked]
  | accessor =>
      rw [ofUse, ofAccessor, show m.annotation? names.accessor = none from unmarked]
      rfl
  | invoker =>
      rw [ofUse, ofInvoker, show m.annotation? names.invoker = none from unmarked]
      rfl
  | injector name => rw [ofUse, ofInjector, show m.annotation? name = none from unmarked]

/-- The answers to the texts that the annotation aims at, in order. -/
theorem ofUse_of_annotation?_eq_some {use : Use} {a : Annotation}
    (marked : m.annotation? (use.annotation names) = some a) :
    ofUse names augmentingType m use =
      concat ((use.texts (.ofMember augmentingType m) a).map
        (use.answer (.ofMember augmentingType m))) := by
  cases use with
  | overwrite =>
      rw [ofUse, ofOverwrite, show m.annotation? names.overwrite = some a from marked]
      rfl
  | accessor =>
      have texts : Use.accessor.texts (.ofMember augmentingType m) a =
          (accessorTarget? a m.name).toList := rfl
      rw [ofUse, ofAccessor, show m.annotation? names.accessor = some a from marked,
        Option.bind_some, texts]
      cases accessorTarget? a m.name with
      | none => rfl
      | some field => exact (concat_singleton _).symm
  | invoker =>
      rw [ofUse, ofInvoker, show m.annotation? names.invoker = some a from marked,
        Option.bind_some, Use.texts]
      cases invokerTarget? a (.ofMember augmentingType m) with
      | none => rfl
      | some text => exact (concat_singleton _).symm
  | injector name =>
      rw [ofUse, ofInjector, show m.annotation? name = some a from marked]
      rfl

theorem entries_subset_concat {part : Extraction} {parts : List Extraction}
    (mem : part ∈ parts) : part.entries ⊆ (concat parts).entries := by
  rw [entries_concat]
  exact fun entry found => List.mem_flatMap.2 ⟨part, mem, found⟩

theorem diagnostics_subset_concat {part : Extraction} {parts : List Extraction}
    (mem : part ∈ parts) : part.diagnostics ⊆ (concat parts).diagnostics := by
  rw [diagnostics_concat]
  exact fun problem found => List.mem_flatMap.2 ⟨part, mem, found⟩

/-- A text that the annotation aims at is the target of an entry, or a report is about it. -/
theorem ofUse_of_aims {use : Use} {a : Annotation} {text : String}
    (marked : m.annotation? (use.annotation names) = some a)
    (aims : use.Aims (.ofMember augmentingType m) a text) :
    (∃ target : Target, target.display = text ∧
      ⟨use.kind, .ofMember augmentingType m, target⟩ ∈ (ofUse names augmentingType m use).entries) ∨
    ∃ problem ∈ (ofUse names augmentingType m use).diagnostics,
      problem.kind = .syntaxError ∧ problem.subject = text := by
  have mem := List.mem_map_of_mem (f := use.answer (.ofMember augmentingType m))
    (Use.mem_texts_iff.2 aims)
  rw [ofUse_of_annotation?_eq_some marked]
  rcases use.isAnswer_answer (.ofMember augmentingType m) text with
    ⟨target, display, isSingle⟩ | ⟨problem, isSyntax, isSubject, isReport⟩
  · refine .inl ⟨target, display, entries_subset_concat mem ?_⟩
    rw [isSingle]
    exact List.mem_singleton_self _
  · refine .inr ⟨problem, diagnostics_subset_concat mem ?_, isSyntax, isSubject⟩
    rw [isReport]
    exact List.mem_singleton_self _

/-- What is found for a use is the answer to a text that the annotation aims at. -/
theorem mem_ofUse_iff {use : Use} {entry : Entry} :
    entry ∈ (ofUse names augmentingType m use).entries ↔
      ∃ a, m.annotation? (use.annotation names) = some a ∧
        ∃ text, use.Aims (.ofMember augmentingType m) a text ∧
          entry ∈ (use.answer (.ofMember augmentingType m) text).entries := by
  cases marked : m.annotation? (use.annotation names) with
  | none => simp [ofUse_of_annotation?_eq_none marked]
  | some a => simp [ofUse_of_annotation?_eq_some marked, entries_concat, Use.mem_texts_iff]

theorem kind_of_mem_ofUse {use : Use} {entry : Entry}
    (mem : entry ∈ (ofUse names augmentingType m use).entries) : entry.kind = use.kind := by
  obtain ⟨a, -, text, -, mem⟩ := mem_ofUse_iff.1 mem
  exact Use.kind_of_mem_answer mem

/-- The entries of some kinds are found for the uses of these kinds. -/
theorem filter_entries_ofMethod (p : Kind → Bool) :
    (ofMethod names augmentingType m).entries.filter (fun entry => p entry.kind) =
      ((Use.all names).filter fun use => p use.kind).flatMap fun use =>
        (ofUse names augmentingType m use).entries := by
  rw [ofMethod_eq, entries_concat, List.flatMap_map, List.filter_flatMap]
  induction Use.all names with
  | nil => rfl
  | cons use uses ih =>
      rw [List.flatMap_cons, ih]
      cases wanted : p use.kind with
      | true =>
          have kept : ∀ entry ∈ (ofUse names augmentingType m use).entries,
              p entry.kind = true :=
            fun entry mem => kind_of_mem_ofUse mem ▸ wanted
          rw [List.filter_cons, if_pos wanted, List.flatMap_cons, List.filter_eq_self.2 kept]
      | false =>
          have dropped : ∀ entry ∈ (ofUse names augmentingType m use).entries,
              ¬ p entry.kind = true := by
            intro entry mem
            rw [kind_of_mem_ofUse mem, wanted]
            exact Bool.false_ne_true
          rw [List.filter_cons, if_neg (by simp [wanted]), List.filter_eq_nil_iff.2 dropped,
            List.nil_append]

/-- The report on the invoker comes first, those on the injectors follow. -/
theorem diagnostics_ofMethod_eq :
    (ofMethod names augmentingType m).diagnostics =
      (ofInvoker names (.ofMember augmentingType m) m).diagnostics ++
        names.injectors.flatMap fun injector =>
          (ofInjector (.ofMember augmentingType m) m injector).diagnostics := by
  rw [ofMethod, diagnostics_concat, List.flatMap_append, List.flatMap_map]
  simp [diagnostics_ofOverwrite, diagnostics_ofAccessor]

end Extraction

namespace Declaration

/-- An entry that is extracted is the answer to a text that one of the methods aims at. -/
theorem mem_extract_iff {d : Declaration} {names : AnnotationNames} {entry : Entry} :
    entry ∈ (d.extract names).entries ↔
      ∃ m ∈ d.methods, ∃ use ∈ Use.all names, ∃ a,
        m.annotation? (use.annotation names) = some a ∧
          ∃ text, use.Aims (.ofMember d.name m) a text ∧
            entry ∈ (use.answer (.ofMember d.name m) text).entries := by
  simp only [extract, Extraction.entries_concat, List.flatMap_map, List.mem_flatMap,
    Extraction.ofMethod_eq, Extraction.mem_ofUse_iff]

/-- No text that an annotation aims at is lost.  An extraction consists of what is found for each
method and each of its uses.  Nothing is found for a use that no annotation marks.  For any other
use, what is found are the answers to the texts that the first such annotation aims at, one for each
of them and in order; injectors aim at the texts as they are given, and each other use aims at no
more than one.  An answer is one entry or one report, so each text aimed at is the target of an
entry of that kind, or there is a report on it. -/
theorem extract_contributes (d : Declaration) (names : AnnotationNames) :
    d.extract names = .concat (d.methods.map fun m =>
      .concat ((Use.all names).map (Extraction.ofUse names d.name m))) ∧
    ∀ (m : Member) (use : Use),
      let handler := Handler.ofMember d.name m
      let found := Extraction.ofUse names d.name m use
      (m.annotation? (use.annotation names) = none → found = {}) ∧
      ∀ a, m.annotation? (use.annotation names) = some a →
        found = .concat ((use.texts handler a).map (use.answer handler)) ∧
        (∀ text, text ∈ use.texts handler a ↔ use.Aims handler a text) ∧
        (∀ name, use = .injector name →
          use.texts handler a = (a.strings? "method").getD []) ∧
        ((∀ name, use ≠ .injector name) → (use.texts handler a).length ≤ 1) ∧
        (∀ text, Extraction.IsAnswer use.kind handler text (use.answer handler text)) ∧
        ∀ text, use.Aims handler a text →
          (∃ target : Target, target.display = text ∧
            ⟨use.kind, handler, target⟩ ∈ found.entries) ∨
          ∃ problem ∈ found.diagnostics, problem.kind = .syntaxError ∧ problem.subject = text := by
  constructor
  · rw [extract]
    exact congrArg Extraction.concat (List.map_congr_left fun m _ => Extraction.ofMethod_eq)
  · intro m use handler found
    refine ⟨Extraction.ofUse_of_annotation?_eq_none, fun a marked => ?_⟩
    refine ⟨Extraction.ofUse_of_annotation?_eq_some marked, fun text => Use.mem_texts_iff, ?_,
      fun single => Use.length_texts_le single handler a, use.isAnswer_answer handler,
      fun text aims => Extraction.ofUse_of_aims marked aims⟩
    rintro name rfl
    rfl

/-- An accessor by its name, and an injector with two specifiers of which one cannot be read. -/
theorem extract_contributes_count :
    let getCount : Member := { name := "getCount", annotations := [{ typeName := "Accessor" }] }
    let inject := ({ typeName := "Inject" } : Annotation).withStrings "method" ["tick", "tick("]
    let onTick : Member := { name := "onTick", annotations := [inject] }
    let d : Declaration := { name := ⟨"p.Own"⟩, methods := [getCount, onTick] }
    let injector : Use := .injector "Inject"
    let answer := injector.answer (.ofMember d.name onTick)
    d.extract .short = .concat
      (d.methods.map fun m => .concat ((Use.all .short).map (Extraction.ofUse .short d.name m))) ∧
    (∃ target : Target, target.display = "count" ∧
      ⟨.accessor, .ofMember d.name getCount, target⟩ ∈
        (Extraction.ofUse .short d.name getCount .accessor).entries) ∧
    Extraction.ofUse .short d.name getCount .overwrite = {} ∧
    Extraction.ofUse .short d.name onTick injector = .concat [answer "tick", answer "tick("] ∧
    (∃ target : Target, target.display = "tick" ∧
      answer "tick" = .single (.injector "Inject") (.ofMember d.name onTick) target) ∧
    ∃ problem : Diagnostic, problem.kind = .syntaxError ∧ problem.subject = "tick(" ∧
      answer "tick(" = { diagnostics := [problem] } := by
  intro getCount inject onTick d injector answer
  obtain ⟨composed, uses⟩ := extract_contributes d .short
  have isAccessor : getCount.annotation? (Use.accessor.annotation .short) =
      some { typeName := "Accessor" } := findAnnotation?_singleton (by decide +kernel)
  have isInjector : onTick.annotation? (injector.annotation .short) = some inject :=
    findAnnotation?_singleton (by decide +kernel)
  have noOverwrite : getCount.annotation? (Use.overwrite.annotation .short) = none :=
    List.find?_eq_none.2 (by decide +kernel)
  have unnamed : ({ typeName := "Accessor" } : Annotation).string? "value" = none := by
    decide +kernel
  have derives : Derives accessorWords "getCount" "count" :=
    ⟨"get", by decide, 'C', "ount".toList, by decide, List.all_eq_true.1 (by decide), by decide,
      by decide⟩
  have given : inject.strings? "method" = some ["tick", "tick("] := by decide +kernel
  have quiet : (Extraction.ofUse .short d.name getCount .accessor).diagnostics = [] := by
    decide +kernel
  have readable : (answer "tick").diagnostics = [] := by decide +kernel
  have unreadable : (answer "tick(").entries = [] := by decide +kernel
  obtain ⟨-, -, -, -, -, accessed⟩ := (uses getCount .accessor).2 _ isAccessor
  obtain ⟨answered, -, listed, -, isAnswer, -⟩ := (uses onTick injector).2 inject isInjector
  refine ⟨composed, ?_, (uses getCount .overwrite).1 noOverwrite, ?_, ?_, ?_⟩
  · rcases accessed "count" (.derivedAccessor (by simp [unnamed]) derives) with
      found | ⟨problem, reported, -⟩
    · exact found
    · rw [quiet] at reported
      cases reported
  · rw [answered, listed "Inject" rfl, given]
    rfl
  · rcases isAnswer "tick" with isEntry | ⟨problem, -, -, isReport⟩
    · exact isEntry
    · rw [show answer "tick" = _ from isReport] at readable
      cases readable
  · rcases isAnswer "tick(" with ⟨target, -, isEntry⟩ | isReport
    · rw [show answer "tick(" = _ from isEntry] at unreadable
      cases unreadable
    · exact isReport

/-- What is lost.  The name `getX` is a word with a single character behind it and implies nothing,
so there is neither an entry nor a report.  Of two annotations of an injector the second one leaves
nothing, although it gives a specifier that can be read. -/
theorem extract_getX :
    let getX : Member := { name := "getX", annotations := [{ typeName := "Accessor" }] }
    let inject : Annotation := { typeName := "Inject" }
    let tick := inject.withString "method" "tick"
    let render := inject.withString "method" "render"
    let on : Member := { name := "on", annotations := [tick, render] }
    let found := Declaration.extract { name := ⟨"p.Own"⟩, methods := [getX] } {}
    let found' := Declaration.extract { name := ⟨"p.Own"⟩, methods := [on] } {}
    ((getX.annotation? ({} : AnnotationNames).accessor).isSome = true ∧
      getX.name.toList = "get".toList ++ ['X'] ∧ isWord 'X' = true ∧
      found.entries = [] ∧ found.diagnostics = []) ∧
    render ∈ on.annotations ∧ render.isNamed (annotationPackage ++ "injection.Inject") = true ∧
      render.strings? "method" = some ["render"] ∧
      (∀ entry ∈ found'.entries, entry.target.display = "tick") ∧ found'.diagnostics = [] := by
  intro getX inject tick render on found found'
  refine ⟨?_, List.mem_cons_of_mem _ List.mem_cons_self, ?_⟩
  · decide +kernel
  · decide +kernel

end Declaration

end MixinIndex
