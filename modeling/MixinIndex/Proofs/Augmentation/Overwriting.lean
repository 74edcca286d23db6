import MixinIndex.Proofs.Augmentation.Gathering
import MixinIndex.Proofs.Augmentation.Uses
import MixinIndex.Proofs.Signature.Erasure
import MixinIndex.Proofs.Signature.Separators

/-!
# Overwriting

Which method of the target an overwriting method is recorded on.  It is looked up by its name and by
its own parameters, and these are erased without the type parameters that are declared with them.
So a copy of a method finds a method with the parameters of the original if and only if the type
variables among the parameters erase to the root class.

## Main definitions

* `Signature.ErasesAlone`: a signature needs no scopes to be erased
* `Declaration.Answers`: a method has a name and erased parameters

## Main statements

* `Signature.erasesAlone_iff`: only type variables may need scopes
* `Augmentations.holds_overwrite_iff`: the overwriting methods that are held
* `Augmentations.ofTarget_copy`: what becomes of a method that overwrites its original

## Design notes

The target's methods are erased in the scopes of the method and of its type, the handler's
parameters in none.  Both erasures agree on everything but type variables, so the difference between
the two sides is a condition on the single parameters.
-/

namespace MixinIndex

open Augmentation

/-! ### Erasure without scopes -/

namespace Signature

/-- A signature is erased in some scopes as it is without any: it is no type variable, and no array
of one, or the variable erases to the root class. -/
def ErasesAlone (scopes : List (List TypeParameter)) (s : Signature) : Prop :=
  (variableNameOf (element s.chars)).isSome = true →
    dotted (eraseWithin scopes maxBoundDepth (element s.chars)) = dotted object.chars

instance (scopes : List (List TypeParameter)) (s : Signature) : Decidable (s.ErasesAlone scopes) :=
  inferInstanceAs (Decidable (_ → _))

theorem erasesAlone_iff {scopes : List (List TypeParameter)} {s : Signature} :
    s.ErasesAlone scopes ↔ Alike (s.erase scopes) (s.erase []) := by
  rw [Alike, erase, erase, chars_ofChars, chars_ofChars, eraseWithin_eq_append scopes,
    eraseWithin_eq_append [], dotted_append, dotted_append, List.append_cancel_left_eq, ErasesAlone]
  cases isVariable : variableNameOf (element s.chars) with
  | none =>
      have noVariable : variableNameOf (element (element s.chars)) = none := by
        rw [element_element, isVariable]
      rw [eraseWithin_of_variableNameOf_eq_none noVariable scopes]
      simp
  | some name =>
      have isRoot : eraseWithin [] maxBoundDepth (element s.chars) = object.chars := by
        rw [eraseWithin_nil, dimensions_element, element_element, isVariable]
        rfl
      rw [isRoot]
      simp

end Signature

open Signature (Alike)

/-- The parameters of a member are erased as they are without scopes if and only if each of them
is. -/
theorem Member.forall₂_erasedParameters_iff {m : Member} {ownerParameters : List TypeParameter} :
    List.Forall₂ Alike (m.erasedParameters ownerParameters) (m.parameters.map (·.erase [])) ↔
      ∀ s ∈ m.parameters, s.ErasesAlone [m.typeParameters, ownerParameters] := by
  rw [erasedParameters, List.forall₂_map_left_iff, List.forall₂_map_right_iff, List.forall₂_same]
  simp only [Signature.erasesAlone_iff]

/-! ### Looking up -/

namespace Declaration

/-- A method has a name and, up to separators, the erasures of the given parameters. -/
structure Answers (target : Declaration) (name : String) (parameters : List Signature)
    (m : Member) : Prop where
  name : m.name = name
  parameters : List.Forall₂ Alike (m.erasedParameters target.typeParameters)
    (parameters.map (·.erase []))

variable {target : Declaration} {name : String} {parameters : List Signature} {m : Member}

theorem answers_iff :
    (m.name == name && m.parametersMatch target.typeParameters parameters) = true ↔
      target.Answers name parameters m := by
  rw [Bool.and_eq_true, beq_iff_eq, Member.parametersMatch, Signature.allSame_eq_true_iff]
  exact ⟨fun h => ⟨h.1, h.2⟩, fun h => ⟨h.1, h.2⟩⟩

instance (target : Declaration) (name : String) (parameters : List Signature) (m : Member) :
    Decidable (target.Answers name parameters m) :=
  decidable_of_iff _ answers_iff

/-- A method that answers for the parameters of another has its erased parameters if and only if
these parameters need no scopes to be erased. -/
theorem Answers.alike_iff {found : Member} (h : target.Answers name m.parameters found) :
    List.Forall₂ Alike (found.erasedParameters target.typeParameters)
        (m.erasedParameters target.typeParameters) ↔
      ∀ s ∈ m.parameters, s.ErasesAlone [m.typeParameters, target.typeParameters] := by
  rw [← Member.forall₂_erasedParameters_iff, Signature.forall₂_alike_iff,
    Signature.forall₂_alike_iff, Signature.forall₂_alike_iff.1 h.parameters]
  exact eq_comm

/-- The method that is found is declared and answers. -/
theorem answers_of_findExact? (found : target.findExact? name parameters = some m) :
    m ∈ target.methods ∧ target.Answers name parameters m := by
  rw [findExact?] at found
  have isMatch := List.find?_some found
  exact ⟨List.mem_of_find?_eq_some found, answers_iff.1 isMatch⟩

/-- Nothing is found if and only if no method answers. -/
theorem findExact?_eq_none_iff :
    target.findExact? name parameters = none ↔
      ∀ m ∈ target.methods, ¬ target.Answers name parameters m := by
  rw [findExact?, List.find?_eq_none]
  simp only [answers_iff]

/-- Something is found if a method answers. -/
theorem exists_findExact? (declared : m ∈ target.methods)
    (answers : target.Answers name parameters m) :
    ∃ found, target.findExact? name parameters = some found := by
  rw [← Option.ne_none_iff_exists', Ne, findExact?_eq_none_iff]
  exact fun nothing => nothing m declared answers

/-- An overwriting entry hits the method that is found. -/
theorem hits_overwrite (handler : Handler) :
    target.hits ⟨.overwrite, handler, .name name⟩ =
      (target.findExact? name handler.parameters).toList :=
  rfl

/-- There is a problem with it if and only if none is found. -/
theorem problems_overwrite (handler : Handler) :
    target.problems ⟨.overwrite, handler, .name name⟩ =
      match target.findExact? name handler.parameters with
      | some _ => []
      | none => [target.notFound (name ++ handler.descriptor.text)] := by
  rw [problems, hits_overwrite]
  cases target.findExact? name handler.parameters with
  | some found => exact if_pos (List.cons_ne_nil _ _)
  | none => exact (if_neg (not_not_intro rfl)).trans (if_pos rfl)

end Declaration

/-! ### Entries -/

namespace Declaration

/-- The overwriting entries of an augmenting type are those of the methods annotated for that. -/
theorem mem_extract_iff_of_overwrite {d : Declaration} {names : AnnotationNames} {entry : Entry}
    (overwrites : entry.kind = .overwrite) :
    entry ∈ (d.extract names).entries ↔
      ∃ m ∈ d.methods, (m.annotation? names.overwrite).isSome = true ∧
        entry = ⟨.overwrite, .ofMember d.name m, .name m.name⟩ := by
  rw [mem_extract_iff]
  constructor
  · rintro ⟨m, declared, use, -, a, marked, text, aims, mem⟩
    have isKind : use.kind = .overwrite := (Use.kind_of_mem_answer mem).symm.trans overwrites
    cases use with
    | overwrite =>
        cases aims
        exact ⟨m, declared, Option.isSome_of_eq_some marked, List.mem_singleton.1 mem⟩
    | accessor | invoker | injector => cases isKind
  · rintro ⟨m, declared, annotated, rfl⟩
    obtain ⟨a, marked⟩ := Option.isSome_iff_exists.1 annotated
    exact ⟨m, declared, .overwrite, List.mem_append_left _ (by decide), a, marked, _, .overwrite,
      List.mem_singleton_self _⟩

end Declaration

/-! ### What is held -/

namespace Augmentations

variable {names : AnnotationNames} {target : Declaration} {mixins : List Declaration}

/-- The overwriting methods that are held: those of the types that name the target, each by the one
method that is found by its name and parameters. -/
theorem holds_overwrite_iff {key : MemberKey} {handler : Handler} :
    (ofTarget names target mixins).holds key .overwrite handler = true ↔
      (∃ mixin ∈ mixins, target.name ∈ mixin.mixinTargets names ∧
        ∃ m ∈ mixin.methods, (m.annotation? names.overwrite).isSome = true ∧
          Handler.ofMember mixin.name m = handler) ∧
      ∃ found, target.findExact? handler.name handler.parameters = some found ∧
        found.key = key := by
  have adds {entry : Entry} (m : Member) (augmenting : TypeName)
      (isEntry : entry = ⟨.overwrite, .ofMember augmenting m, .name m.name⟩) :
      (ofEntry target entry).holds key .overwrite handler = true ↔
        Handler.ofMember augmenting m = handler ∧
          ∃ found, target.findExact? m.name m.parameters = some found ∧ found.key = key := by
    subst isEntry
    rw [holds_ofEntry_iff]
    simp [Declaration.hits, Handler.ofMember]
  rw [holds_ofTarget_iff]
  constructor
  · rintro ⟨mixin, isMixin, named, entry, extracted, held⟩
    have overwrites := (holds_ofEntry_iff.1 held).1
    obtain ⟨m, declared, annotated, isEntry⟩ :=
      (Declaration.mem_extract_iff_of_overwrite overwrites).1 extracted
    obtain ⟨rfl, found⟩ := (adds m mixin.name isEntry).1 held
    exact ⟨⟨mixin, isMixin, named, m, declared, annotated, rfl⟩, found⟩
  · rintro ⟨⟨mixin, isMixin, named, m, declared, annotated, rfl⟩, found⟩
    exact ⟨mixin, isMixin, named, _,
      (Declaration.mem_extract_iff_of_overwrite rfl).2 ⟨m, declared, annotated, rfl⟩,
      (adds m mixin.name rfl).2 ⟨rfl, found⟩⟩

/-- A problem with an entry of a type that names the target is reported. -/
theorem mem_diagnostics_ofTarget {mixin : Declaration} (isMixin : mixin ∈ mixins)
    (named : target.name ∈ mixin.mixinTargets names) {entry : Entry}
    (extracted : entry ∈ (mixin.extract names).entries) {problem : Diagnostic}
    (isProblem : problem ∈ target.problems entry) :
    problem ∈ (ofTarget names target mixins).diagnostics := by
  rw [diagnostics_ofTarget, List.mem_flatMap]
  refine ⟨mixin, isMixin, ?_⟩
  rw [problemsOf, if_pos named]
  exact List.mem_append_right _ (List.mem_flatMap.2 ⟨entry, extracted, isProblem⟩)

/-- A method with the name and the parameters of a method of the target overwrites it.  It is held
by a method with the erased parameters of the original, and there is no problem with it, if and only
if each of the parameters needs no scopes to be erased.  In any case it is held by the method that
has the parameters as they are erased without scopes, whether these are the erased parameters of the
original or not, and it is reported as missing if there is no such method. -/
theorem ofTarget_copy {mixin : Declaration} (isMixin : mixin ∈ mixins)
    (named : target.name ∈ mixin.mixinTargets names) {m copy : Member}
    (original : m ∈ target.methods) (declared : copy ∈ mixin.methods)
    (annotated : (copy.annotation? names.overwrite).isSome = true) (name : copy.name = m.name)
    (parameters : copy.parameters = m.parameters) :
    let handler := Handler.ofMember mixin.name copy
    let entry : Entry := ⟨.overwrite, handler, .name m.name⟩
    let result := ofTarget names target mixins
    let erased := m.erasedParameters target.typeParameters
    entry ∈ (mixin.extract names).entries ∧
    ((∀ s ∈ m.parameters, s.ErasesAlone [m.typeParameters, target.typeParameters]) ↔
      ∃ found ∈ target.methods, found.name = m.name ∧
        List.Forall₂ Alike (found.erasedParameters target.typeParameters) erased ∧
        target.hits entry = [found] ∧ target.problems entry = [] ∧
        result.holds found.key .overwrite handler = true) ∧
    (∀ found, target.hits entry = [found] →
      found ∈ target.methods ∧ target.Answers m.name m.parameters found ∧
        target.problems entry = [] ∧ result.holds found.key .overwrite handler = true) ∧
    ((∀ other ∈ target.methods, ¬ target.Answers m.name m.parameters other) →
      target.problems entry = [target.notFound (m.name ++ handler.descriptor.text)] ∧
        target.notFound (m.name ++ handler.descriptor.text) ∈ result.diagnostics ∧
        ∀ key, result.holds key .overwrite handler = false) := by
  intro handler entry result erased
  have handled : handler.parameters = m.parameters := parameters
  have isEntry : entry = ⟨.overwrite, handler, .name copy.name⟩ := by rw [name]
  have hits : target.hits entry = (target.findExact? m.name m.parameters).toList := by
    rw [← handled]
    exact Declaration.hits_overwrite handler
  have problems : target.problems entry = match target.findExact? m.name m.parameters with
      | some _ => []
      | none => [target.notFound (m.name ++ handler.descriptor.text)] := by
    rw [← handled]
    exact Declaration.problems_overwrite handler
  have held {key : MemberKey} : result.holds key .overwrite handler = true ↔
      ∃ found, target.findExact? m.name m.parameters = some found ∧ found.key = key := by
    rw [holds_overwrite_iff, handled, show handler.name = m.name from name]
    exact and_iff_right ⟨mixin, isMixin, named, copy, declared, annotated, rfl⟩
  have extracted : entry ∈ (mixin.extract names).entries :=
    (Declaration.mem_extract_iff_of_overwrite rfl).2 ⟨copy, declared, annotated, isEntry⟩
  have recorded (found : Member) (hit : target.hits entry = [found]) :
      found ∈ target.methods ∧ target.Answers m.name m.parameters found ∧
        target.problems entry = [] ∧ result.holds found.key .overwrite handler = true := by
    rw [hits, Option.toList_eq_singleton_iff] at hit
    obtain ⟨declared, answers⟩ := Declaration.answers_of_findExact? hit
    exact ⟨declared, answers, by rw [problems, hit], held.2 ⟨found, hit, rfl⟩⟩
  refine ⟨extracted, ⟨fun alone => ?_, ?_⟩, recorded, fun nothing => ?_⟩
  · -- the original answers, so a method that does is found
    have unscoped := Member.forall₂_erasedParameters_iff.2 alone
    obtain ⟨found, isFound⟩ := Declaration.exists_findExact? original ⟨rfl, unscoped⟩
    have hit : target.hits entry = [found] := by rw [hits, isFound, Option.toList_some]
    obtain ⟨declared, answers, quiet, holds⟩ := recorded found hit
    exact ⟨found, declared, answers.name, answers.alike_iff.2 alone, hit, quiet, holds⟩
  · rintro ⟨found, -, -, alike, hit, -, -⟩
    obtain ⟨-, answers, -, -⟩ := recorded found hit
    exact answers.alike_iff.1 alike
  · have isMissing := Declaration.findExact?_eq_none_iff.2 nothing
    rw [isMissing] at problems
    refine ⟨problems, mem_diagnostics_ofTarget isMixin named extracted ?_, fun key => ?_⟩
    · rw [problems]
      exact List.mem_cons_self
    · rw [← Bool.not_eq_true, held, isMissing]
      rintro ⟨found, ⟨⟩, -⟩

/-- Both methods of a type are overwritten by copies of them.  The type variable of the first has no
bound, that of the second has one, so only the first copy is held. -/
theorem ofTarget_copy_box :
    let own : List TypeParameter := [⟨"E", []⟩, ⟨"T", [⟨"Ljava/lang/Comparable;"⟩]⟩]
    let put : Member := { name := "put", parameters := [⟨"[TE;"⟩, ⟨"Ljava/util/List<TT;>;"⟩] }
    let set : Member := { name := "set", parameters := [⟨"TT;"⟩] }
    let copy (m : Member) : Member := { m with annotations := [{ typeName := "Overwrite" }] }
    let target : Declaration :=
      { name := ⟨"x.Box"⟩, typeParameters := own, methods := [put, set] }
    let mixin : Declaration :=
      { name := ⟨"p.Own"⟩
        typeParameters := own
        methods := [copy put, copy set]
        annotations := [({ typeName := "Mixin" } : Annotation).withString "targets" "x.Box"] }
    let result := ofTarget {} target [mixin]
    target.name ∈ mixin.mixinTargets {} ∧
      result.holds put.key .overwrite (.ofMember ⟨"p.Own"⟩ put) = true ∧
      target.notFound "set(TT;)V" ∈ result.diagnostics ∧
      ∀ key, result.holds key .overwrite (.ofMember ⟨"p.Own"⟩ set) = false := by
  intro own put set copy target mixin result
  have isMixin : mixin ∈ [mixin] := List.mem_cons_self
  have named : target.name ∈ mixin.mixinTargets {} := by decide +kernel
  have annotated (m : Member) :
      ((copy m).annotation? ({} : AnnotationNames).overwrite).isSome = true := by
    show (findAnnotation? [{ typeName := "Overwrite" }] _).isSome = true
    decide +kernel
  have putAlone : ∀ s ∈ put.parameters, s.ErasesAlone [put.typeParameters, own] := by decide
  have noSet : ∀ m ∈ target.methods, ¬ target.Answers set.name set.parameters m := by decide
  obtain ⟨-, recorded, -, -⟩ := ofTarget_copy isMixin named (m := put) List.mem_cons_self
    List.mem_cons_self (annotated put) rfl rfl
  obtain ⟨-, -, -, missing⟩ := ofTarget_copy isMixin named (m := set)
    (List.mem_cons_of_mem _ List.mem_cons_self) (List.mem_cons_of_mem _ List.mem_cons_self)
    (annotated set) rfl rfl
  obtain ⟨found, declared, sameName, -, -, -, held⟩ := recorded.1 putAlone
  obtain rfl : found = put := by
    rcases List.mem_pair.1 declared with rfl | rfl
    · rfl
    · exact absurd sameName (by decide)
  obtain ⟨-, reported, notHeld⟩ := missing noSet
  have subject : set.name ++ (Handler.ofMember mixin.name (copy set)).descriptor.text =
      "set(TT;)V" := by decide
  rw [subject] at reported
  exact ⟨named, held, reported, notHeld⟩

end Augmentations

end MixinIndex
