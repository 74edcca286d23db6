import MixinIndex.Declaration.Basic

/-!
# Member resolution

Which members of a target type a specifier selects.

## Main definitions

* `Resolution`: the members selected and the problems found
* `Declaration.eligible`: the candidates whose name and parameters agree with a specifier
* `Declaration.resolve`: the selection among candidates
* `Declaration.findExact?`: the method of a name and parameters

## Design notes

The eligible candidates are passed once, in order, by the specifier's quantifier.  A bare name
that several candidates share selects none of them.  A specifier that demands nothing and finds
nothing is reported as a missing target.
-/

namespace MixinIndex

/-- The members selected, in order and with their places among the candidates, and the problems
found. -/
structure Resolution where
  selected : List (Member × Nat) := []
  diagnostics : List Diagnostic := []

namespace Resolution

/-- The members selected. -/
def members (r : Resolution) : List Member := r.selected.map (·.1)

/-- Whether some problem is an error. -/
def hasErrors (r : Resolution) : Bool := r.diagnostics.any Diagnostic.isError

end Resolution

namespace Declaration

/-- The report that a target is missing from a type. -/
def notFound (target : Declaration) (subject : String) : Diagnostic :=
  ⟨.targetNotFound, subject, "not found in " ++ target.name.text⟩

/-- Whether a candidate has the name that a specifier asks for. -/
def nameMatches (spec : Specifier) (candidate : Member) : Bool :=
  match spec.name with
  | none => true
  | some name =>
    if name = constructorName then candidate.isConstructor
    else if name = staticInitializerName then candidate.isStaticInitializer
    else candidate.name == name

/-- Whether a candidate has the parameters that a specifier asks for; a field has none. -/
def descriptorMatches (target : Declaration) (spec : Specifier) (candidate : Member) : Bool :=
  match spec.descriptor with
  | none => true
  | some descriptor =>
    candidate.kind != .field &&
      candidate.parametersMatch target.typeParameters descriptor.parameters

/-- The candidates that a specifier's name and parameters admit, with their places. -/
def eligible (target : Declaration) (spec : Specifier) (candidates : List Member) :
    List (Member × Nat) :=
  candidates.zipIdx.filter fun c => nameMatches spec c.1 && target.descriptorMatches spec c.1

/-- Whether a specifier is a bare name. -/
def isBareName (spec : Specifier) : Bool :=
  spec.quantifier.isImplicit && spec.descriptor.isNone && spec.name.isSome

/-- The report that a bare name is shared by several members. -/
def ambiguous (target : Declaration) (spec : Specifier) (count : Nat) : Diagnostic :=
  ⟨.ambiguousTarget, spec.raw, toString count ++ " members of " ++ target.name.text ++
    " match by name; add a descriptor or quantifier"⟩

/-- The members among the candidates that a specifier selects. -/
def resolve (target : Declaration) (spec : Specifier) (candidates : List Member) : Resolution :=
  if !spec.appliesTo target.name then {}
  else
    let admitted := target.eligible spec candidates
    if isBareName spec && 1 < admitted.length then
      { diagnostics := [target.ambiguous spec admitted.length] }
    else
      let (selected, cursor) := spec.quantifier.cursor.selectAll admitted
      let diagnostics := match cursor.report spec.raw with
        | none => []
        | some report =>
          if report.kind = .quantifierEmpty ∧ spec.quantifier.isImplicit then
            [target.notFound spec.raw]
          else [report]
      { selected, diagnostics }

/-- The methods of a type that a specifier selects. -/
def resolveMethod (target : Declaration) (spec : Specifier) : Resolution :=
  target.resolve spec target.methods

/-- The first method of a name whose erased parameters are the given ones. -/
def findExact? (target : Declaration) (name : String) (parameters : List Signature) :
    Option Member :=
  target.methods.find? fun m =>
    m.name == name && m.parametersMatch target.typeParameters parameters

end Declaration

end MixinIndex
