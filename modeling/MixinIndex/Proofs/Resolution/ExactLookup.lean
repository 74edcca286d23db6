import Mathlib.Data.List.Find
import MixinIndex.Proofs.Resolution.Positions
import MixinIndex.Proofs.Resolution.Selection

/-!
# Exact look-ups

There are two ways to look up a method by its name and erased parameters: a search for the first
method that has both, and the resolver with the specifier of exactly these.  The resolver passes all
candidates under the implicit quantifier, which selects the first of those that match, so that both
come to the same method.

## Main statements

* `Declaration.resolve_of_described`: a descriptor without a quantifier selects the first match
* `Declaration.matches_exact`: what an exact specifier compares
* `Declaration.resolveMethod_exact`: the resolver selects what the search finds

## Design notes

A search compares the names as they are and pays no heed to kinds.  The resolver keeps the names of
constructors and of static initializers for members of that sort, and never selects a field by a
descriptor; so these two names and fields among the methods are left out.
-/

namespace MixinIndex

/-- Without a token the first member is selected, if there is one. -/
theorem Quantifier.selectAll_implicit_fst {α : Type} (members : List α) :
    (implicit.cursor.selectAll members).1 = members.head?.toList := by
  cases members with
  | nil => rfl
  | cons member members => exact (selectAll_implicit member members).1

namespace Declaration

variable {target : Declaration} {spec : Specifier} {candidates : List Member}

/-- With a descriptor and without a quantifier, the first of the matching candidates is selected,
and it is reported if there is none. -/
theorem resolve_of_described (ours : ∀ owner ∈ spec.owner, owner = target.name)
    (noQuantifier : spec.quantifier = .implicit) (described : spec.descriptor.isSome = true) :
    (target.resolve spec candidates).members =
        (target.matching spec candidates).head?.toList ∧
      (target.resolve spec candidates).diagnostics =
        if target.matching spec candidates = [] then [target.notFound spec.raw] else [] := by
  have notShared : ¬ target.IsShared spec candidates := by
    intro shared
    rw [shared.noDescriptor] at described
    cases described
  rw [resolve_of_not_isShared ours notShared, noQuantifier, Quantifier.selectAll_implicit_fst,
    ← map_eligible]
  cases target.eligible spec candidates with
  | nil =>
      refine ⟨rfl, ?_⟩
      simp [shortcomings, noQuantifier, Quantifier.implicit, Quantifier.isImplicit]
  | cons first others =>
      refine ⟨rfl, ?_⟩
      simp [shortcomings, noQuantifier, Quantifier.implicit]

/-- Among methods, and but for the names of special ones, an exact specifier compares what a search
compares. -/
theorem matches_exact {name : String} {m : Member} (isMethod : m.kind ≠ .field)
    (notConstructor : name ≠ constructorName) (notInitializer : name ≠ staticInitializerName)
    (parameters : List Signature) (result : Signature) :
    target.Matches (.exact name parameters result) m ↔
      (m.name == name && m.parametersMatch target.typeParameters parameters) = true := by
  have sameName : nameMatches (.exact name parameters result) m = (m.name == name) := by
    show (if name = constructorName then _ else if name = staticInitializerName then _ else _) = _
    rw [if_neg notConstructor, if_neg notInitializer]
  have sameParameters : target.descriptorMatches (.exact name parameters result) m =
      m.parametersMatch target.typeParameters parameters := by
    show (m.kind != .field && _) = _
    rw [bne_iff_ne.2 isMethod, Bool.true_and]
  rw [← matches_iff, sameName, sameParameters]

/-- The first match of an exact specifier is the method that a search finds. -/
theorem head?_matching_exact (isMethod : ∀ m ∈ target.methods, m.kind ≠ .field)
    {name : String} (notConstructor : name ≠ constructorName)
    (notInitializer : name ≠ staticInitializerName) (parameters : List Signature)
    (result : Signature) :
    (target.matching (.exact name parameters result) target.methods).head? =
      target.findExact? name parameters := by
  rw [matching, List.head?_filter, findExact?]
  apply List.find?_congr
  intro m declared
  rw [Bool.eq_iff_iff, decide_eq_true_iff]
  exact matches_exact (isMethod m declared) notConstructor notInitializer parameters result

/-- Both exact look-ups agree.  The specifier of a name and a descriptor selects one method at most,
the one that a search for the name and the parameters finds.  The search finds none if and only if
the specifier selects none and reports one missing target, and otherwise nothing is reported. -/
theorem resolveMethod_exact (target : Declaration)
    (isMethod : ∀ m ∈ target.methods, m.kind ≠ .field) {name : String}
    (notConstructor : name ≠ constructorName) (notInitializer : name ≠ staticInitializerName)
    (parameters : List Signature) (result : Signature) :
    let spec := Specifier.exact name parameters result
    let resolution := target.resolveMethod spec
    let found := target.findExact? name parameters
    found = resolution.members.head? ∧
      resolution.members.length ≤ 1 ∧
      (found = none ↔
        resolution.members = [] ∧ resolution.diagnostics.map (·.kind) = [.targetNotFound]) ∧
      resolution.diagnostics = if found = none then [target.notFound spec.raw] else [] := by
  intro spec resolution found
  obtain ⟨selected, reported⟩ :
      resolution.members = (target.matching spec target.methods).head?.toList ∧
        resolution.diagnostics =
          if target.matching spec target.methods = [] then [target.notFound spec.raw] else [] :=
    resolve_of_described (by rintro _ ⟨⟩) rfl rfl
  have first : (target.matching spec target.methods).head? = found :=
    head?_matching_exact isMethod notConstructor notInitializer parameters result
  rw [first] at selected
  simp only [← List.head?_eq_none_iff, first] at reported
  rw [selected, reported]
  cases found with
  | none => exact ⟨rfl, Nat.zero_le 1, iff_of_true rfl ⟨rfl, rfl⟩, rfl⟩
  | some m =>
      exact ⟨rfl, le_refl 1, iff_of_false (by rintro ⟨⟩) (by rintro ⟨⟨⟩, -⟩), rfl⟩

/-- Of two methods with the same erasure both look-ups come to the first. -/
theorem resolveMethod_exact_shelf :
    let element : TypeParameter := ⟨"E", []⟩
    let take : Member := { name := "take", parameters := [⟨"I"⟩] }
    let generic : Member := { name := "put", parameters := [⟨"TE;"⟩] }
    let plain : Member := { name := "put", parameters := [⟨"Ljava/lang/Object;"⟩] }
    let target : Declaration :=
      { name := ⟨"p.Shelf"⟩, typeParameters := [element], methods := [take, generic, plain] }
    let resolution := target.resolveMethod (.exact "put" [⟨"Ljava/lang/Object;"⟩] .void)
    (∀ m ∈ target.methods, m.kind ≠ .field) ∧ "put" ≠ constructorName ∧
      "put" ≠ staticInitializerName ∧
      target.findExact? "put" [⟨"Ljava/lang/Object;"⟩] = some generic ∧
      resolution.members.head? = some generic ∧ resolution.diagnostics = [] := by
  intro element take generic plain target resolution
  have isMethod : ∀ m ∈ target.methods, m.kind ≠ .field := by
    simp [target, take, generic, plain]
  obtain ⟨first, -, -, reported⟩ := resolveMethod_exact target isMethod
    (show "put" ≠ constructorName by decide) (by decide) [⟨"Ljava/lang/Object;"⟩] .void
  have found : target.findExact? "put" [⟨"Ljava/lang/Object;"⟩] = some generic := by
    have passed : (take.name == "put") = false := by decide
    have erased :
        generic.parametersMatch target.typeParameters [⟨"Ljava/lang/Object;"⟩] = true := by
      decide
    have named : (generic.name == "put") = true := by decide
    simp [findExact?, target, passed, named, erased]
  rw [found] at first reported
  exact ⟨isMethod, by decide, by decide, found, first.symm, reported⟩

end Declaration

end MixinIndex
