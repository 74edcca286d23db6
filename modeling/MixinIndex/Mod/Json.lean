import MixinIndex.Mod.ConfigFile
import MixinIndex.Mod.Metadata

/-!
# Mods in JSON

## Main definitions

* `Metadata.encode`, `Metadata.Diff.encode`, `ConfigFile.encode`: all fields
-/

namespace MixinIndex

/-- The metadata of a mod. -/
def Metadata.encode (m : Metadata) : Json :=
  .object [("id", .string m.id), ("schema_version", .ofOption .ofNat m.schemaVersion),
    ("mixin_configs", .ofStrings m.configs.toList)]

/-- The configs that come and go. -/
def Metadata.Diff.encode (d : Metadata.Diff) : Json :=
  .object [("added", .ofStrings d.added.toList), ("removed", .ofStrings d.removed.toList)]

/-- A mixin config. -/
def ConfigFile.encode (c : ConfigFile) : Json :=
  .object [("name", .string c.name), ("package", .string c.package),
    ("mixins", .ofStrings c.mixins), ("client", .ofStrings c.client),
    ("server", .ofStrings c.server)]

end MixinIndex
