import MixinIndex.Contribution.Index
import MixinIndex.Json.Basic

/-!
# Indexes in JSON

## Main definitions

* `Application.encode`: an application
* `Index.encodeSnapshot`: both views of an index
* `Index.encodeCounts`: the size of each part of an index
-/

namespace MixinIndex

/-- An application. -/
def Application.encode (a : Application) : Json :=
  .object [("target", .string a.target.text), ("augmenting", .string a.augmenting.text)]

namespace Index

/-- The applications by target and by config. -/
def encodeSnapshot (x : Index) : Json :=
  .object [
    ("by_target", .object (x.snapshot.byTarget.toList.map fun (target, augmenting) =>
      (target.text, .ofStrings (augmenting.map (·.text))))),
    ("by_config", .object (x.snapshot.byConfig.toList.map fun (config, applications) =>
      (config, .array (applications.map Application.encode))))]

/-- The numbers of configs, targets, applications and listed types. -/
def encodeCounts (x : Index) : List (String × Json) :=
  [("configs", .ofNat x.counts.configs), ("targets", .ofNat x.counts.targets),
    ("entries", .ofNat x.counts.applications),
    ("augmenting_types", .ofNat x.counts.augmentingTypes)]

end Index

end MixinIndex
