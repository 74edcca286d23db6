import MixinIndex.Config.Basic
import MixinIndex.Json.Record

/-!
# Configuration in JSON

## Main definitions

* `AnnotationNames.decode?`: annotation names; unknown members are refused
* `AnnotationNames.encode`, `Config.encode`: all fields
-/

namespace MixinIndex

open Json (orDefault? list?)

namespace AnnotationNames

/-- The fields in order. -/
def fieldNames : List String := ["mixin", "overwrite", "accessor", "invoker", "injectors"]

/-- Whether an object has only known members. -/
def membersKnown : Json → Bool
  | .object members => members.all fun m => fieldNames.contains m.1
  | _ => true

/-- Annotation names; those not written keep their defaults. -/
def decode? (json : Json) : Option AnnotationNames := do
  let defaults : AnnotationNames := {}
  if !membersKnown json then none
  let [mixin, overwrite, accessor, invoker, injectors] ← json.record? fieldNames | none
  return {
    mixin := ← orDefault? defaults.mixin Json.string? mixin
    overwrite := ← orDefault? defaults.overwrite Json.string? overwrite
    accessor := ← orDefault? defaults.accessor Json.string? accessor
    invoker := ← orDefault? defaults.invoker Json.string? invoker
    injectors := ← orDefault? defaults.injectors (list? Json.string?) injectors }

/-- Annotation names with all fields. -/
def encode (names : AnnotationNames) : Json :=
  .object [("mixin", .string names.mixin), ("overwrite", .string names.overwrite),
    ("accessor", .string names.accessor), ("invoker", .string names.invoker),
    ("injectors", .ofStrings names.injectors)]

end AnnotationNames

/-- A configuration with all fields. -/
def Config.encode (c : Config) : Json :=
  .object [("metadata_file", .string c.metadataFile),
    ("project_resources", .string c.projectResources), ("annotations", c.annotations.encode)]

end MixinIndex
