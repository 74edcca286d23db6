import MixinIndex.Mod.Metadata

/-!
# Environments

Which mods are present in a project and which configs they declare.

## Main definitions

* `LoadedMod`: a source together with the metadata found in it
* `Environment`: the project's own mod and the mods of the classpath
-/

namespace MixinIndex

/-- A source, by its name in the workspace, together with the metadata found in it. -/
structure LoadedMod where
  source : String
  metadata : Metadata

/-- The mod found in a source, given the result of reading its metadata file.  A source whose
metadata cannot be read or makes no sense is no mod. -/
def LoadedMod.ofResource? (source : String) : Except Failure String → Option LoadedMod
  | .ok text =>
    match Metadata.ofText text with
    | .ok metadata => some ⟨source, metadata⟩
    | .error _ => none
  | .error _ => none

/-- The mods that are present in a project. -/
structure Environment where
  project : Option LoadedMod := none
  classpath : List LoadedMod := []

namespace Environment

/-- All mods, the project's own first. -/
def mods (e : Environment) : List LoadedMod := e.project.toList ++ e.classpath

/-- The metadata of the project's own mod. -/
def projectMetadata (e : Environment) : Option Metadata := e.project.map (·.metadata)

/-- The configs that the project's own mod declares. -/
def projectConfigs (e : Environment) : Std.ExtTreeSet String :=
  Metadata.configsOf e.projectMetadata

end Environment

end MixinIndex
