import MixinIndex.Augmentation.Extraction
import MixinIndex.Contribution.Index
import MixinIndex.Declaration.Catalogue
import MixinIndex.Mod.ConfigFile

/-!
# Loading configs

A config file lists augmenting types; what they are applied to stands in their declarations.

## Main definitions

* `Catalogue.targetsOf`: the targets that a declared augmenting type names
* `Catalogue.entriesFor`: its applications to them
* `Index.load`, `Index.tryLoad`: read one config into an index
* `Loader.load`: the same, step by step on an index that changes
* `Loader.loadAll`: read several configs, and count those that are of use

## Design notes

A loader changes its index as it goes, and a failure takes nothing back.  That one that fails has
changed nothing is for `Loader.load` to bring about, and no part of what a loader is.
-/

namespace MixinIndex

namespace Catalogue

/-- The targets that an augmenting type names, none if it is not declared. -/
def targetsOf (c : Catalogue) (names : AnnotationNames) (augmenting : TypeName) :
    List TypeName :=
  match c.find? augmenting with
  | some declaration => declaration.mixinTargets names
  | none => []

/-- The applications of an augmenting type to its targets. -/
def entriesFor (c : Catalogue) (names : AnnotationNames) (augmenting : TypeName) :
    List Application :=
  Application.toTargets augmenting (c.targetsOf names augmenting)

/-- The applications of all types that a config file lists. -/
def entriesOf (c : Catalogue) (names : AnnotationNames) (file : ConfigFile) :
    List Application := file.augmentingTypes.flatMap (c.entriesFor names)

end Catalogue

/-- Read one config into an index, in place of what the config contributed before; also count its
applications. -/
def Index.load (names : AnnotationNames) (c : Catalogue) (config : String)
    (resource : Except Failure String) (x : Index) : Except Failure (Nat × Index) := do
  let text ← resource
  let file ← ConfigFile.ofText config text
  return x.replace config file.augmentingTypes (c.entriesOf names file)

/-- Read one config into an index; one that is of no use changes nothing. -/
def Index.tryLoad (names : AnnotationNames) (c : Catalogue) (config : String)
    (resource : Except Failure String) (x : Index) : Index :=
  match x.load names c config resource with
  | .ok (_, y) => y
  | .error _ => x

/-- Loading on an index.  A failure ends it and keeps what was done to the index before. -/
abbrev Loader := ExceptT Failure (StateM Index)

namespace Loader

variable (names : AnnotationNames) (c : Catalogue) (read : String → Except Failure String)

/-- Read one config of a source, in place of what the config contributed before; the number of its
applications. -/
def load (config : String) : Loader Nat := do
  let text ← read config
  let file ← ConfigFile.ofText config text
  modifyGet (·.replace config file.augmentingTypes (c.entriesOf names file))

/-- Read several configs of a source, whether or not others are of use; the number of those that
are. -/
def loadAll : List String → StateM Index Nat
  | [] => return 0
  | config :: configs => do
    let outcome ← (load names c read config).run
    let others ← loadAll configs
    return if outcome.isOk then others + 1 else others

end Loader

end MixinIndex
