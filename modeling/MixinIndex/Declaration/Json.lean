import MixinIndex.Declaration.Basic
import MixinIndex.Json.Reader
import MixinIndex.Json.Record

/-!
# Declarations in JSON

The JSON form of declared types and all that they are made of.  Reading fills in defaults and
brings type names into their dotted form; writing writes every field.

## Main definitions

* `decode?` and `encode` for each model, from `TypeName` to `Declaration`
* `Declaration.ofText?`: the declaration written in a text
-/

namespace MixinIndex

open Json (required? orDefault? record? list? nullable?)

/-! ### Names, signatures and type parameters -/

/-- A type name in any notation. -/
def TypeName.decode? (json : Json) : Option TypeName := json.string?.map TypeName.ofText

/-- The dotted name. -/
def TypeName.encode (name : TypeName) : Json := .string name.text

/-- A signature, verbatim. -/
def Signature.decode? (json : Json) : Option Signature := json.string?.map Signature.mk

/-- A signature, verbatim. -/
def Signature.encode (s : Signature) : Json := .string s.text

/-- A type parameter; without bounds it has none. -/
def TypeParameter.decode? (json : Json) : Option TypeParameter := do
  let [name, bounds] ← json.record? ["name", "bounds"] | none
  return {
    name := ← required? Json.string? name
    bounds := ← orDefault? [] (list? Signature.decode?) bounds }

/-- A type parameter with all its bounds. -/
def TypeParameter.encode (p : TypeParameter) : Json :=
  .object [("name", .string p.name), ("bounds", .array (p.bounds.map Signature.encode))]

/-! ### Annotations -/

namespace Annotation

mutual

/-- A value: an object whose one member says its type. -/
def Value.decode? : Json → Option Value
  | .object [("string", .string text)] => some (.string text)
  | .object [("class", .string name)] => some (.type (.ofText name))
  | .object [("int", value)] => value.int64?.map .int
  | .object [("bool", .bool value)] => some (.bool value)
  | .object [("array", .array items)] => (Value.decodeAll? items).map .array
  | _ => none

/-- All values of an array. -/
def Value.decodeAll? : List Json → Option (List Value)
  | [] => some []
  | item :: items => do return (← Value.decode? item) :: (← Value.decodeAll? items)

end

mutual

/-- A value as an object whose one member says its type. -/
def Value.encode : Value → Json
  | .string text => .object [("string", .string text)]
  | .type name => .object [("class", name.encode)]
  | .int value => .object [("int", .int value)]
  | .bool value => .object [("bool", .bool value)]
  | .array items => .object [("array", .array (Value.encodeAll items))]

/-- All values of an array. -/
def Value.encodeAll : List Value → List Json
  | [] => []
  | item :: items => item.encode :: Value.encodeAll items

end

/-- The values under their keys, the last one of a repeated key. -/
def decodeValues? : Json → Option (Std.ExtTreeMap String Value)
  | .object members => do
    let values ← members.mapM fun m => (Value.decode? m.2).map (m.1, ·)
    return values.foldl (fun map (key, value) => map.insert key value) ∅
  | _ => none

/-- An annotation. -/
def decode? (json : Json) : Option Annotation := do
  let [typeName, values] ← json.record? ["type_name", "values"] | none
  return {
    typeName := ← required? Json.string? typeName
    values := ← orDefault? ∅ decodeValues? values }

/-- An annotation with its values in the order of their keys. -/
def encode (a : Annotation) : Json :=
  .object [("type_name", .string a.typeName),
    ("values", .object (a.values.toList.map fun (key, value) => (key, value.encode)))]

end Annotation

/-! ### Members -/

namespace Member

/-- A kind by its word. -/
def Kind.decode? (json : Json) : Option Kind := json.unitTag?.bind Kind.ofText?

/-- The word for a kind. -/
def Kind.encode (kind : Kind) : Json := .string kind.text

/-- A place in the source. -/
def SourceRange.decode? (json : Json) : Option SourceRange := do
  let [offset, length] ← json.record? ["offset", "length"] | none
  return { offset := ← required? Json.nat? offset, length := ← required? Json.nat? length }

/-- A place in the source. -/
def SourceRange.encode (range : SourceRange) : Json :=
  .object [("offset", .ofNat range.offset), ("length", .ofNat range.length)]

/-- A member; only its name has to be written. -/
def decode? (json : Json) : Option Member := do
  let [name, kind, parameters, result, typeParameters, declaringType, sourceRange, annotations] ←
    json.record? ["name", "kind", "params", "return_type", "type_parameters", "declaring_type",
      "source_range", "annotations"] | none
  return {
    name := ← required? Json.string? name
    kind := ← orDefault? .method Kind.decode? kind
    parameters := ← orDefault? [] (list? Signature.decode?) parameters
    result := ← orDefault? .void Signature.decode? result
    typeParameters := ← orDefault? [] (list? TypeParameter.decode?) typeParameters
    declaringType := ← orDefault? ⟨""⟩ TypeName.decode? declaringType
    sourceRange := ← orDefault? none (nullable? SourceRange.decode?) sourceRange
    annotations := ← orDefault? [] (list? Annotation.decode?) annotations }

/-- A member with all its fields. -/
def encode (m : Member) : Json :=
  .object [("name", .string m.name), ("kind", m.kind.encode),
    ("params", .array (m.parameters.map Signature.encode)), ("return_type", m.result.encode),
    ("type_parameters", .array (m.typeParameters.map TypeParameter.encode)),
    ("declaring_type", m.declaringType.encode),
    ("source_range", .ofOption SourceRange.encode m.sourceRange),
    ("annotations", .array (m.annotations.map Annotation.encode))]

end Member

namespace MemberKey

/-- A key; every field has to be written. -/
def decode? (json : Json) : Option MemberKey := do
  let [declaringType, name, descriptor, kind] ←
    json.record? ["declaring_type", "name", "descriptor", "kind"] | none
  return {
    declaringType := ← required? TypeName.decode? declaringType
    name := ← required? Json.string? name
    descriptor := ← required? Json.string? descriptor
    kind := ← required? Member.Kind.decode? kind }

/-- A key with all its fields. -/
def encode (key : MemberKey) : Json :=
  .object [("declaring_type", key.declaringType.encode), ("name", .string key.name),
    ("descriptor", .string key.descriptor), ("kind", key.kind.encode)]

end MemberKey

/-! ### Declarations -/

namespace Declaration

/-- A declared type; only its name has to be written. -/
def decode? (json : Json) : Option Declaration := do
  let [name, typeParameters, methods, fields, annotations] ←
    json.record? ["name", "type_parameters", "methods", "fields", "annotations"] | none
  return {
    name := ← required? TypeName.decode? name
    typeParameters := ← orDefault? [] (list? TypeParameter.decode?) typeParameters
    methods := ← orDefault? [] (list? Member.decode?) methods
    fields := ← orDefault? [] (list? Member.decode?) fields
    annotations := ← orDefault? [] (list? Annotation.decode?) annotations }

/-- A declared type with all its fields. -/
def encode (d : Declaration) : Json :=
  .object [("name", d.name.encode),
    ("type_parameters", .array (d.typeParameters.map TypeParameter.encode)),
    ("methods", .array (d.methods.map Member.encode)),
    ("fields", .array (d.fields.map Member.encode)),
    ("annotations", .array (d.annotations.map Annotation.encode))]

/-- The declared type written in a text. -/
def ofText? (text : String) : Option Declaration := (Json.read? text).bind decode?

/-- The declared types written as an array in a text. -/
def listOfText? (text : String) : Option (List Declaration) :=
  (Json.read? text).bind (list? decode?)

end Declaration

end MixinIndex
