import MixinIndex.Config.Error
import MixinIndex.Yaml.Reader
import MixinIndex.Yaml.Writer

/-!
# Configuration in YAML

```yaml
version: 1
metadata_file: fabric.mod.json
project_resources: src/main/resources
annotations:
  mixin: org.spongepowered.asm.mixin.Mixin
  injectors:
  - org.spongepowered.asm.mixin.injection.Inject
```

## Main definitions

* `Config.ofTree`: the configuration that a tree describes
* `Config.toTree`: the tree that describes a configuration
* `Config.ofText`, `Config.toText`: the same for texts

## Design notes

The version is looked at before anything else, so that a text of another version is reported as
such.  Then fields must be known and of their type, absent ones take their defaults, and the
result is validated.  A null stands for an absent field at the top, and for an empty list of
injectors, but for no name.  Tags do not matter, but that the version is found under a key without
tag only, and that a null under a tag is no absent field.
-/

namespace MixinIndex.Config

open MixinIndex (Yaml)

/-- A text, or null for an absent one. -/
def optionalText? : Option Yaml → Option (Option String)
  | none => some none
  | some .null => some none
  | some value => value.text?.map some

/-- A name that has a default where it is not written. -/
def name? (default : String) : Option Yaml → Option String
  | none => some default
  | some value => value.text?

/-- The injectors, which have a default where they are not written. -/
def injectors? (default : List String) : Option Yaml → Option (List String)
  | none => some default
  | some value =>
    match value.untagged with
    | .null => some []
    | .sequence items => items.mapM Yaml.text?
    | _ => none

/-- The fields of a mapping, all of whose keys have to be among the known ones, each at most
once. -/
def fieldsOf? (known : List String) (entries : List (Yaml × Yaml)) :
    Option (List (String × Yaml)) := do
  let fields ← entries.mapM fun entry => entry.1.text?.map (·, entry.2)
  let keys := fields.map (·.1)
  if keys.all known.contains ∧ keys.Nodup then return fields else none

/-- The annotation names of a mapping; those not written keep their defaults. -/
def annotations? (entries : List (Yaml × Yaml)) : Option AnnotationNames := do
  let defaults : AnnotationNames := {}
  let fields ← fieldsOf? ["mixin", "overwrite", "accessor", "invoker", "injectors"] entries
  return {
    mixin := ← name? defaults.mixin (fields.lookup "mixin")
    overwrite := ← name? defaults.overwrite (fields.lookup "overwrite")
    accessor := ← name? defaults.accessor (fields.lookup "accessor")
    invoker := ← name? defaults.invoker (fields.lookup "invoker")
    injectors := ← injectors? defaults.injectors (fields.lookup "injectors") }

/-- The annotation names, or null for absent ones.  A null under a tag stands for an empty
mapping. -/
def optionalAnnotations? : Option Yaml → Option (Option AnnotationNames)
  | none => some none
  | some .null => some none
  | some value =>
    match value.untagged with
    | .mapping entries => (annotations? entries).map some
    | .null => (annotations? []).map some
    | _ => none

/-- The configuration of a mapping of a supported version, not yet validated. -/
def fields? (entries : List (Yaml × Yaml)) : Option Config := do
  let defaults : Config := {}
  let fields ←
    fieldsOf? ["version", "metadata_file", "project_resources", "annotations"] entries
  return {
    metadataFile :=
      (← optionalText? (fields.lookup "metadata_file")).getD defaults.metadataFile
    projectResources :=
      (← optionalText? (fields.lookup "project_resources")).getD defaults.projectResources
    annotations :=
      (← optionalAnnotations? (fields.lookup "annotations")).getD defaults.annotations }

/-- The configuration that a tree describes. -/
def ofTree (tree : Yaml) : Except Error Config :=
  match tree.field? "version" with
  | none => .error .missingVersion
  | some version =>
    match version.nat? with
    | none => .error (.invalid .version)
    | some found =>
      if found ≠ supportedVersion then .error (.unsupportedVersion found)
      else
        match tree.untagged with
        | .mapping entries =>
          match fields? entries with
          | none => .error .unreadableText
          | some config => (config.validate.mapError .invalid).map fun () => config
        | _ => .error .unreadableText

/-- The configuration written in a text. -/
def ofText (text : String) : Except Error Config :=
  match Yaml.read? text with
  | some tree => ofTree tree
  | none => .error .unreadableText

/-- The tree that describes annotation names. -/
def annotationTree (names : AnnotationNames) : Yaml :=
  .mapping [(.string "mixin", .string names.mixin), (.string "overwrite", .string names.overwrite),
    (.string "accessor", .string names.accessor), (.string "invoker", .string names.invoker),
    (.string "injectors", .sequence (names.injectors.map .string))]

/-- The tree that describes a configuration, every field of it. -/
def toTree (c : Config) : Yaml :=
  .mapping [(.string "version", .int supportedVersion),
    (.string "metadata_file", .string c.metadataFile),
    (.string "project_resources", .string c.projectResources),
    (.string "annotations", annotationTree c.annotations)]

/-- The text of a configuration. -/
def toText (c : Config) : String := c.toTree.write

end MixinIndex.Config
