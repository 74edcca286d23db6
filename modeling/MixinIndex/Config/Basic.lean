import MixinIndex.Text.Blank

/-!
# Resolver configuration

The names of the annotations that the index understands, and where a project keeps its resources.

## Main definitions

* `AnnotationNames`: the qualified annotation names
* `Config`: the configuration, every field of which has a default
* `Config.validate`: the first field that cannot be used, with the reason
-/

namespace MixinIndex

open Text

/-- The package of the annotations. -/
def annotationPackage : String := "org.spongepowered.asm.mixin."

/-- The qualified names of the annotations that the index understands. -/
structure AnnotationNames where
  mixin : String := annotationPackage ++ "Mixin"
  overwrite : String := annotationPackage ++ "Overwrite"
  accessor : String := annotationPackage ++ "gen.Accessor"
  invoker : String := annotationPackage ++ "gen.Invoker"
  injectors : List String :=
    ["Inject", "ModifyArg", "ModifyArgs", "ModifyConstant", "ModifyVariable", "Redirect"].map
      (annotationPackage ++ "injection." ++ ·)
  deriving DecidableEq

/-- The configuration of the index. -/
structure Config where
  /-- The metadata file inside a mod's resources. -/
  metadataFile : String := "fabric.mod.json"
  /-- The resources of the project's own mod, relative to the project. -/
  projectResources : String := "src/main/resources"
  annotations : AnnotationNames := {}
  deriving DecidableEq

namespace Config

/-- A field that cannot be used. -/
inductive Invalid where
  | version
  | empty (field : String)
  | emptyInjector
  | repeatedInjector (name : String)
  deriving DecidableEq

/-- The field that is meant. -/
def Invalid.field : Invalid → String
  | version => "version"
  | empty field => field
  | emptyInjector => "annotations.injectors"
  | repeatedInjector _ => "annotations.injectors"

/-- Why the field cannot be used. -/
def Invalid.reason : Invalid → String
  | version => "must be a positive integer"
  | empty _ => "must not be empty"
  | emptyInjector => "contains an empty name"
  | repeatedInjector name => "'" ++ name ++ "' listed twice"

/-- The fields that must not be blank, in the order in which they are looked at. -/
def textFields (c : Config) : List (String × String) :=
  [("metadata_file", c.metadataFile), ("project_resources", c.projectResources),
    ("annotations.mixin", c.annotations.mixin),
    ("annotations.overwrite", c.annotations.overwrite),
    ("annotations.accessor", c.annotations.accessor),
    ("annotations.invoker", c.annotations.invoker)]

/-- The first blank or repeated injector, given those before. -/
def checkInjectors (seen : List String) : List String → Except Invalid Unit
  | [] => .ok ()
  | injector :: rest =>
    if isBlankText injector then .error .emptyInjector
    else if injector ∈ seen then .error (.repeatedInjector injector)
    else checkInjectors (injector :: seen) rest

/-- The first field that cannot be used. -/
def validate (c : Config) : Except Invalid Unit :=
  match c.textFields.find? fun field => isBlankText field.2 with
  | some (field, _) => .error (.empty field)
  | none => checkInjectors [] c.annotations.injectors

end Config

end MixinIndex
