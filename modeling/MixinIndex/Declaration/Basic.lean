import MixinIndex.Declaration.Member

/-!
# Declarations

A declared type with its members in the order of declaration.

## Main definitions

* `Declaration`: a declared type
* `Declaration.adopt`: the declaration with its members' owners filled in and its fields marked
-/

namespace MixinIndex

/-- A declared type. -/
structure Declaration where
  name : TypeName
  typeParameters : List TypeParameter := []
  methods : List Member := []
  fields : List Member := []
  annotations : List Annotation := []

namespace Declaration

/-- The first annotation of a qualified name. -/
def annotation? (d : Declaration) (qualified : String) : Option Annotation :=
  findAnnotation? d.annotations qualified

/-- The first field of a name. -/
def field? (d : Declaration) (name : String) : Option Member := d.fields.find? (·.name == name)

/-- A member of a type, which becomes its owner if the member names none. -/
def adoptMember (owner : TypeName) (m : Member) : Member :=
  if m.declaringType.isEmpty then { m with declaringType := owner } else m

/-- Fill in missing owners and mark fields as such. -/
def adopt (d : Declaration) : Declaration :=
  { d with
    methods := d.methods.map (adoptMember d.name)
    fields := d.fields.map fun m => { adoptMember d.name m with kind := .field } }

theorem adoptMember_adoptMember (owner : TypeName) (m : Member) :
    adoptMember owner (adoptMember owner m) = adoptMember owner m := by
  unfold adoptMember
  split
  · split <;> rfl
  · rfl

theorem adoptMember_withKind (owner : TypeName) (m : Member) (kind : Member.Kind) :
    adoptMember owner { m with kind } = { adoptMember owner m with kind } := by
  simp only [adoptMember]
  split <;> rfl

/-- An adopted declaration stays as it is. -/
theorem adopt_adopt (d : Declaration) : d.adopt.adopt = d.adopt := by
  simp only [adopt, List.map_map, Function.comp_def, adoptMember_withKind, adoptMember_adoptMember]

end Declaration

end MixinIndex
