import Mathlib.Tactic.SplitIfs
import MixinIndex.Proofs.Augmentation.Gathering

/-!
# Accounting

Nothing that an augmenting type says about its target is lost.  An entry is about another type, or
a member of the target holds its handler, or there is a problem with it; a specifier that cannot be
read is reported once.  Nothing is held besides.

## Main definitions

* `Augmentation.Entry.IsAbout`: an entry is not about another type
* `Augmentation.Entry.IsAccounted`: what becomes of an entry
* `Declaration.specifiers`: the specifiers that an augmenting type gives
* `Declaration.unreadable`: the reports of those that cannot be read

## Main statements

* `Declaration.problems_ne_nil`: an entry that hits nothing has a problem
* `Declaration.diagnostics_extract`: each specifier that cannot be read is reported once
* `Augmentations.ofTarget_accounts`: all entries and all specifiers are accounted for
-/

namespace MixinIndex

open Augmentation

/-! ### Selected members -/

namespace Quantifier.Cursor

/-- A pass selects some of the members, in their order. -/
theorem selectAll_sublist {α : Type} (c : Cursor) (members : List α) :
    (c.selectAll members).1.Sublist members := by
  induction members generalizing c with
  | nil => exact .refl []
  | cons member members ih =>
      have rest := ih c.step.2
      show (if c.step.1 then member :: (c.step.2.selectAll members).1
        else (c.step.2.selectAll members).1).Sublist _
      split
      · exact rest.cons_cons member
      · exact rest.cons member

/-- A pass that selects nothing is reported. -/
theorem report_of_selectAll_eq_nil {α : Type} (q : Quantifier) {members : List α}
    (nothing : (q.cursor.selectAll members).1 = []) (subject : String) :
    (q.cursor.selectAll members).2.report subject ≠ none := by
  have found : (q.cursor.selectAll members).2.found = 0 := by
    rw [selectAll_found, nothing]
    rfl
  rw [report, found, if_pos rfl]
  split_ifs
  · exact Option.some_ne_none _
  · exact Option.some_ne_none _

/-- A report at the end of a pass is not about the syntax. -/
theorem kind_of_report {c : Cursor} {subject : String} {d : Diagnostic}
    (reported : c.report subject = some d) : d.kind ≠ .syntaxError := by
  unfold report at reported
  split_ifs at reported
  · obtain rfl := Option.some.inj reported
    rintro ⟨⟩
  · obtain rfl := Option.some.inj reported
    rintro ⟨⟩

end Quantifier.Cursor

namespace Declaration

variable {target : Declaration} {spec : Specifier} {candidates : List Member}

/-- What a selection can be: none at all for a specifier of another type, a problem alone, or a part
of the eligible candidates.  If that part is empty there is a problem too, and no problem is about
the syntax. -/
theorem resolve_cases (target : Declaration) (spec : Specifier) (candidates : List Member) :
    (spec.appliesTo target.name = false ∧ target.resolve spec candidates = {}) ∨
    spec.appliesTo target.name = true ∧ ∃ selected problems,
      target.resolve spec candidates = ⟨selected, problems⟩ ∧
      selected.Sublist (target.eligible spec candidates) ∧ (selected = [] → problems ≠ []) ∧
      ∀ d ∈ problems, d.kind ≠ .syntaxError := by
  cases applies : spec.appliesTo target.name with
  | false => exact Or.inl ⟨rfl, by rw [resolve, applies, Bool.not_false, if_pos rfl]⟩
  | true =>
      refine Or.inr ⟨rfl, ?_⟩
      rw [resolve, applies, Bool.not_true, if_neg Bool.false_ne_true]
      -- a bare name that several members share selects none of them, and no pass is made
      by_cases shared :
          (isBareName spec && 1 < (target.eligible spec candidates).length) = true
      · refine ⟨[], _, if_pos shared, List.nil_sublist _, fun _ => List.cons_ne_nil _ _, ?_⟩
        rintro d reported isSyntax
        obtain rfl := List.mem_singleton.1 reported
        cases isSyntax
      · refine ⟨_, _, if_neg shared, Quantifier.Cursor.selectAll_sublist _ _, ?_, ?_⟩
        · intro nothing
          obtain ⟨report, reported⟩ := Option.ne_none_iff_exists'.1
            (Quantifier.Cursor.report_of_selectAll_eq_nil spec.quantifier nothing spec.raw)
          simp only [reported]
          split_ifs
          · exact List.cons_ne_nil _ _
          · exact List.cons_ne_nil _ _
        · intro d problem
          split at problem
          · cases problem
          · rename_i report reported
            split_ifs at problem
            · obtain rfl := List.mem_singleton.1 problem
              rintro ⟨⟩
            · obtain rfl := List.mem_singleton.1 problem
              exact Quantifier.Cursor.kind_of_report reported

/-- The members selected are among the candidates. -/
theorem mem_of_mem_resolve {m : Member} (mem : m ∈ (target.resolve spec candidates).members) :
    m ∈ candidates := by
  obtain ⟨⟨m, place⟩, chosen, rfl⟩ := List.mem_map.1 mem
  rcases target.resolve_cases spec candidates with
    ⟨-, nothing⟩ | ⟨-, selected, problems, resolved, part, -⟩
  · rw [nothing] at chosen
    cases chosen
  · rw [resolved] at chosen
    have eligible := List.mem_of_mem_filter (part.subset chosen)
    exact List.mem_of_getElem? (List.mem_zipIdx_iff_getElem?.1 eligible)

/-- Where a specifier applies and nothing is selected, there is a problem. -/
theorem resolve_diagnostics_ne_nil (applies : spec.appliesTo target.name = true)
    (nothing : (target.resolve spec candidates).members = []) :
    (target.resolve spec candidates).diagnostics ≠ [] := by
  rcases target.resolve_cases spec candidates with
    ⟨another, -⟩ | ⟨-, selected, problems, resolved, -, reported, -⟩
  · rw [applies] at another
    cases another
  · rw [resolved] at nothing ⊢
    exact reported (List.map_eq_nil_iff.1 nothing)

/-- The selection does not report syntax. -/
theorem kind_of_mem_resolve {d : Diagnostic}
    (problem : d ∈ (target.resolve spec candidates).diagnostics) : d.kind ≠ .syntaxError := by
  rcases target.resolve_cases spec candidates with
    ⟨-, nothing⟩ | ⟨-, selected, problems, resolved, -, -, kinds⟩
  · rw [nothing] at problem
    cases problem
  · rw [resolved] at problem
    exact kinds d problem

end Declaration

/-! ### Entries -/

/-- An entry is about a type unless its specifier names another one. -/
def Augmentation.Entry.IsAbout (entry : Entry) (target : TypeName) : Prop :=
  ∀ spec, entry.target = .specifier spec → ∀ owner, spec.owner = some owner → owner = target

theorem Augmentation.Entry.isAbout_specifier {kind : Kind} {handler : Handler} {spec : Specifier}
    {target : TypeName} :
    Entry.IsAbout ⟨kind, handler, .specifier spec⟩ target ↔ spec.appliesTo target = true := by
  rw [Specifier.appliesTo, Option.all_eq_true]
  constructor
  · exact fun about owner owned => beq_iff_eq.2 (about spec rfl owner owned)
  · rintro same _ ⟨⟩ owner owned
    exact beq_iff_eq.1 (same owner owned)

namespace Declaration

variable {target : Declaration} {entry : Entry}

/-- An entry hits methods and fields of the target. -/
theorem mem_of_mem_hits {m : Member} (hit : m ∈ target.hits entry) :
    m ∈ target.methods ++ target.fields := by
  obtain ⟨kind, handler, locates⟩ := entry
  cases locates with
  | specifier spec => exact List.mem_append_left _ (mem_of_mem_resolve hit)
  | name name =>
      simp only [hits] at hit
      split_ifs at hit
      · exact List.mem_append_left _ (List.mem_of_find?_eq_some (Option.mem_toList.1 hit))
      · exact List.mem_append_right _ (List.mem_of_find?_eq_some (Option.mem_toList.1 hit))

/-- An entry that is about another type hits nothing and has no problem. -/
theorem hits_of_not_isAbout (another : ¬ entry.IsAbout target.name) :
    target.hits entry = [] ∧ target.problems entry = [] := by
  obtain ⟨kind, handler, locates⟩ := entry
  cases locates with
  | specifier spec =>
      rw [Entry.isAbout_specifier, Bool.not_eq_true] at another
      have idle : target.resolveMethod spec = {} := by
        rw [resolveMethod, resolve, another, Bool.not_false, if_pos rfl]
      exact ⟨congrArg Resolution.members idle, congrArg Resolution.diagnostics idle⟩
  | name name => exact absurd (by rintro spec ⟨⟩) another

/-- Any other entry that hits nothing has a problem. -/
theorem problems_ne_nil (about : entry.IsAbout target.name) (nothing : target.hits entry = []) :
    target.problems entry ≠ [] := by
  obtain ⟨kind, handler, locates⟩ := entry
  cases locates with
  | specifier spec => exact resolve_diagnostics_ne_nil (Entry.isAbout_specifier.1 about) nothing
  | name name =>
      simp only [problems, nothing]
      split_ifs with contradiction
      · exact absurd rfl contradiction
      · exact List.cons_ne_nil _ _
      · exact List.cons_ne_nil _ _

/-- Problems of an entry are not about the syntax. -/
theorem kind_of_mem_problems {d : Diagnostic} (problem : d ∈ target.problems entry) :
    d.kind ≠ .syntaxError := by
  obtain ⟨kind, handler, locates⟩ := entry
  cases locates with
  | specifier spec => exact kind_of_mem_resolve problem
  | name name =>
      simp only [problems] at problem
      split_ifs at problem
      · cases problem
      · obtain rfl := List.mem_singleton.1 problem
        rintro ⟨⟩
      · obtain rfl := List.mem_singleton.1 problem
        rintro ⟨⟩

end Declaration

/-! ### Specifiers -/

/-- The specifiers that a method gives: that of the invoker, then those of the injectors in their
configured order. -/
def Member.specifierTexts (m : Member) (names : AnnotationNames) (handler : Handler) :
    List String :=
  ((m.annotation? names.invoker).bind (invokerTarget? · handler)).toList ++
    names.injectors.flatMap fun injector =>
      ((m.annotation? injector).bind (·.strings? "method")).getD []

/-- The specifiers that the methods of an augmenting type give, with their handlers. -/
def Declaration.specifiers (d : Declaration) (names : AnnotationNames) :
    List (Handler × String) :=
  d.methods.flatMap fun m =>
    (m.specifierTexts names (.ofMember d.name m)).map (Handler.ofMember d.name m, ·)

/-- The report of a specifier, if it cannot be read. -/
def unreadable? (handler : Handler) (raw : String) : Option Diagnostic :=
  match Specifier.parseText raw with
  | .ok _ => none
  | .error e => some (Extraction.unreadable handler e)

/-- The reports of the specifiers that cannot be read. -/
def Declaration.unreadable (d : Declaration) (names : AnnotationNames) : List Diagnostic :=
  (d.specifiers names).filterMap fun given => unreadable? given.1 given.2

/-- What cannot be read is reported with the specifier as its subject. -/
theorem unreadable?_eq_some {handler : Handler} {raw : String} {d : Diagnostic}
    (reported : unreadable? handler raw = some d) : d.kind = .syntaxError ∧ d.subject = raw := by
  rw [unreadable?, Specifier.parseText] at reported
  cases read : Specifier.parse raw with
  | ok spec =>
      rw [read] at reported
      cases reported
  | error fault =>
      rw [read] at reported
      obtain rfl := Option.some.inj reported
      exact ⟨rfl, rfl⟩

namespace Extraction

theorem diagnostics_ofSpecifier (kind : Kind) (handler : Handler) (raw : String) :
    (ofSpecifier kind handler raw).diagnostics = (unreadable? handler raw).toList := by
  rw [ofSpecifier, unreadable?]
  cases Specifier.parseText raw <;> rfl

theorem diagnostics_ofOverwrite (names : AnnotationNames) (handler : Handler) (m : Member) :
    (ofOverwrite names handler m).diagnostics = [] := by
  rw [ofOverwrite]
  cases m.annotation? names.overwrite <;> rfl

theorem diagnostics_ofAccessor (names : AnnotationNames) (handler : Handler) (m : Member) :
    (ofAccessor names handler m).diagnostics = [] := by
  rw [ofAccessor]
  cases (m.annotation? names.accessor).bind (accessorTarget? · m.name) <;> rfl

theorem diagnostics_ofInvoker (names : AnnotationNames) (handler : Handler) (m : Member) :
    (ofInvoker names handler m).diagnostics =
      ((m.annotation? names.invoker).bind (invokerTarget? · handler)).toList.filterMap
        (unreadable? handler) := by
  rw [ofInvoker]
  cases (m.annotation? names.invoker).bind (invokerTarget? · handler) with
  | none => rfl
  | some raw =>
      rw [diagnostics_ofSpecifier, Option.toList_some, List.filterMap_cons, List.filterMap_nil]
      cases unreadable? handler raw <;> rfl

theorem diagnostics_ofInjector (handler : Handler) (m : Member) (injector : String) :
    (ofInjector handler m injector).diagnostics =
      (((m.annotation? injector).bind (·.strings? "method")).getD []).filterMap
        (unreadable? handler) := by
  rw [ofInjector]
  cases m.annotation? injector with
  | none => rfl
  | some found =>
      rw [Option.bind_some, diagnostics_concat, List.flatMap_map, List.filterMap_eq_flatMap_toList]
      exact congrArg (List.flatMap · _) (funext (diagnostics_ofSpecifier _ handler))

/-- Each specifier of a method that cannot be read is reported once, in order. -/
theorem diagnostics_ofMethod (names : AnnotationNames) (augmentingType : TypeName) (m : Member) :
    (ofMethod names augmentingType m).diagnostics =
      (m.specifierTexts names (.ofMember augmentingType m)).filterMap
        (unreadable? (.ofMember augmentingType m)) := by
  rw [ofMethod, diagnostics_concat, Member.specifierTexts, List.filterMap_append,
    List.filterMap_flatMap, List.flatMap_append, List.flatMap_map]
  simp only [List.flatMap_cons, List.flatMap_nil, diagnostics_ofOverwrite, diagnostics_ofAccessor,
    diagnostics_ofInvoker, diagnostics_ofInjector, List.nil_append, List.append_nil]

end Extraction

namespace Declaration

/-- Each specifier of an augmenting type that cannot be read is reported once, in order. -/
theorem diagnostics_extract (d : Declaration) (names : AnnotationNames) :
    (d.extract names).diagnostics = d.unreadable names := by
  rw [extract, Extraction.diagnostics_concat, List.flatMap_map, unreadable, specifiers,
    List.filterMap_flatMap]
  refine congrArg (List.flatMap · _) (funext fun m => ?_)
  rw [Extraction.diagnostics_ofMethod, List.filterMap_map]
  rfl

theorem kind_of_mem_unreadable {d : Declaration} {names : AnnotationNames} {problem : Diagnostic}
    (reported : problem ∈ d.unreadable names) : problem.kind = .syntaxError := by
  obtain ⟨given, -, isReport⟩ := List.mem_filterMap.1 reported
  exact (unreadable?_eq_some isReport).1

end Declaration

/-! ### The whole account -/

/-- What becomes of an entry: it is about another type and adds nothing to any gathering, or a
member of the target holds its handler under its kind, or there is a problem with it. -/
inductive Augmentation.Entry.IsAccounted (target : Declaration) (result : Augmentations)
    (entry : Entry) : Prop where
  | elsewhere (another : ¬ entry.IsAbout target.name)
    (silent : ∀ a, Augmentations.resolveEntry target a entry = a)
  | recorded (member : Member) (about : entry.IsAbout target.name)
    (adds : (Augmentations.ofEntry target entry).holds member.key entry.kind entry.handler = true)
    (held : result.holds member.key entry.kind entry.handler = true)
  | reported (d : Diagnostic) (about : entry.IsAbout target.name)
    (adds : d ∈ (Augmentations.ofEntry target entry).diagnostics)
    (reported : d ∈ result.diagnostics)

namespace Augmentations

variable {names : AnnotationNames} {target : Declaration}

/-- The problems with the syntax that an augmenting type meets are its unreadable specifiers. -/
theorem filter_problemsOf (mixin : Declaration) :
    (problemsOf names target mixin).filter (·.kind = .syntaxError) =
      if target.name ∈ mixin.mixinTargets names then mixin.unreadable names else [] := by
  rw [problemsOf]
  split
  · have unreadable : (mixin.unreadable names).filter (·.kind = .syntaxError) =
        mixin.unreadable names :=
      List.filter_eq_self.2 fun d reported =>
        decide_eq_true (Declaration.kind_of_mem_unreadable reported)
    have others : ((mixin.extract names).entries.flatMap target.problems).filter
        (·.kind = .syntaxError) = [] := by
      refine List.filter_eq_nil_iff.2 fun d problem isSyntax => ?_
      obtain ⟨entry, -, found⟩ := List.mem_flatMap.1 problem
      exact Declaration.kind_of_mem_problems found (of_decide_eq_true isSyntax)
    rw [List.filter_append, others, List.append_nil, Declaration.diagnostics_extract, unreadable]
  · rfl

/-- The problems with the syntax are the unreadable specifiers of the types that name the target. -/
theorem filter_diagnostics_ofTarget (mixins : List Declaration) :
    (ofTarget names target mixins).diagnostics.filter (·.kind = .syntaxError) =
      (mixins.filter (target.name ∈ ·.mixinTargets names)).flatMap (·.unreadable names) := by
  rw [diagnostics_ofTarget]
  induction mixins with
  | nil => rfl
  | cons mixin mixins ih =>
      rw [List.flatMap_cons, List.filter_append, ih, filter_problemsOf, List.filter_cons]
      by_cases named : target.name ∈ mixin.mixinTargets names
      · rw [if_pos named, if_pos (decide_eq_true named), List.flatMap_cons]
      · rw [if_neg named, if_neg (by simpa using named), List.nil_append]

/-- What an entry of an augmenting type that names the target becomes. -/
theorem isAccounted_of_mem {mixins : List Declaration} {mixin : Declaration} (mem : mixin ∈ mixins)
    (named : target.name ∈ mixin.mixinTargets names) {entry : Entry}
    (extracted : entry ∈ (mixin.extract names).entries) :
    entry.IsAccounted target (ofTarget names target mixins) := by
  by_cases about : entry.IsAbout target.name
  · cases hit : target.hits entry with
    | nil =>
        obtain ⟨d, problem⟩ := List.exists_mem_of_ne_nil _ (Declaration.problems_ne_nil about hit)
        refine .reported d about ?_ ?_
        · rwa [diagnostics_ofEntry]
        · rw [diagnostics_ofTarget, List.mem_flatMap]
          refine ⟨mixin, mem, ?_⟩
          rw [problemsOf, if_pos named]
          exact List.mem_append_right _ (List.mem_flatMap.2 ⟨entry, extracted, problem⟩)
    | cons member others =>
        have adds : (ofEntry target entry).holds member.key entry.kind entry.handler = true :=
          holds_ofEntry_iff.2 ⟨rfl, rfl, member, by rw [hit]; exact List.mem_cons_self, rfl⟩
        exact .recorded member about adds
          (holds_ofTarget_iff.2 ⟨mixin, mem, named, entry, extracted, adds⟩)
  · obtain ⟨noHits, noProblems⟩ := Declaration.hits_of_not_isAbout about
    refine .elsewhere about fun a => ?_
    rw [resolveEntry_eq, noHits, noProblems, List.foldl_nil, reportAll, List.append_nil]

/-- All that the augmenting types of a target say is accounted for.  Each entry is about another
type, or held by a member under its kind, or there is a problem with it.  Each specifier that cannot
be read is reported once, in order, and there are no other problems with the syntax.  What is held
is the handler of an entry of that kind, and a member of the target holds it. -/
theorem ofTarget_accounts (names : AnnotationNames) (target : Declaration)
    (mixins : List Declaration) :
    (∀ mixin ∈ mixins, target.name ∈ mixin.mixinTargets names →
      ∀ entry ∈ (mixin.extract names).entries,
        entry.IsAccounted target (ofTarget names target mixins)) ∧
    (ofTarget names target mixins).diagnostics.filter (·.kind = .syntaxError) =
      (mixins.filter (target.name ∈ ·.mixinTargets names)).flatMap (·.unreadable names) ∧
    ∀ m k h, (ofTarget names target mixins).holds m k h = true →
      (∃ mixin ∈ mixins, target.name ∈ mixin.mixinTargets names ∧
        ∃ entry ∈ (mixin.extract names).entries, entry.kind = k ∧ entry.handler = h) ∧
      ∃ member ∈ target.methods ++ target.fields, member.key = m := by
  refine ⟨fun mixin mem named entry => isAccounted_of_mem mem named,
    filter_diagnostics_ofTarget mixins, fun m k h held => ?_⟩
  obtain ⟨mixin, mem, named, entry, extracted, adds⟩ := holds_ofTarget_iff.1 held
  obtain ⟨isKind, isHandler, member, hit, isKey⟩ := holds_ofEntry_iff.1 adds
  exact ⟨⟨mixin, mem, named, entry, extracted, isKind, isHandler⟩, member,
    Declaration.mem_of_mem_hits hit, isKey⟩

/-- A handler is injected into a method, where there are two of a name, into another type, and where
the specifier cannot be read. -/
theorem ofTarget_accounts_glow :
    let target : Declaration :=
      { name := ⟨"x.Lamp"⟩
        methods :=
          [{ name := "dim" }, { name := "glow" }, { name := "glow", parameters := [⟨"I"⟩] }] }
    let mixin := Declaration.injecting "x.Lamp" "q.A" ["dim", "glow", "x.Door.dim", "dim("]
    let result := ofTarget .short target [mixin]
    (mixin.extract .short).entries.length = 3 ∧
      (∀ entry ∈ (mixin.extract .short).entries, entry.IsAccounted target result) ∧
      (result.diagnostics.filter (·.kind = .syntaxError)).map (·.subject) = ["dim("] ∧
      result.holds ⟨⟨""⟩, "dim", "()V", .method⟩ (.injector "Inject")
        ⟨⟨"q.A"⟩, "onDim", [], .void⟩ = true ∧
      ∃ member ∈ target.methods ++ target.fields, member.key = ⟨⟨""⟩, "dim", "()V", .method⟩ := by
  intro target mixin result
  obtain ⟨accounted, reported, held⟩ := ofTarget_accounts .short target [mixin]
  have named : target.name ∈ mixin.mixinTargets .short := by decide +kernel
  have holds : result.holds ⟨⟨""⟩, "dim", "()V", .method⟩ (.injector "Inject")
      ⟨⟨"q.A"⟩, "onDim", [], .void⟩ = true := by decide +kernel
  refine ⟨by decide +kernel, accounted mixin List.mem_cons_self named, ?_, holds,
    (held _ _ _ holds).2⟩
  rw [reported]
  decide +kernel

end Augmentations

end MixinIndex
