import Std.Data.ExtTreeSet
import MixinIndex.Failure
import MixinIndex.Json.Reader
import MixinIndex.Json.Writer

/-!
# Mod metadata

A mod describes itself in a metadata file, which names the mixin configs it brings along:

```json
{"schemaVersion": 1, "id": "demo",
 "mixins": ["a.mixins.json", {"config": "b.mixins.json", "environment": "client"}]}
```

## Main definitions

* `Metadata`: id, schema version and config names of a mod
* `Metadata.ofText`: the metadata written in a text
* `Metadata.diffFrom`: the configs that come and go from one metadata to the next

## Design notes

A file of another schema version still describes a mod, but one without configs; its list of
mixins is not looked at.
-/

namespace MixinIndex

/-- What a mod says about itself. -/
structure Metadata where
  id : String
  /-- The schema version, if it is a natural number. -/
  schemaVersion : Option Nat
  /-- The names of the mixin configs. -/
  configs : Std.ExtTreeSet String := ∅

namespace Metadata

/-- The schema version whose mixin lists are understood. -/
def supportedSchema : Nat := 1

/-- What can be wrong with the shape of a metadata file. -/
inductive Fault where
  | notAnObject
  | missingId
  | mixinsNotAnArray
  | entryWithoutConfig
  | entryOfWrongType (entry : Json)

/-- The reason given for a fault. -/
def Fault.reason : Fault → String
  | notAnObject => "root is not an object"
  | missingId => "missing string field 'id'"
  | mixinsNotAnArray => "'mixins' is not an array"
  | entryWithoutConfig => "mixin entry without string 'config'"
  | entryOfWrongType entry =>
    "mixin entry is neither string nor object: " ++ entry.compact

/-- The name that stands for a metadata file whose mod is not known yet. -/
def anonymous : String := "mod metadata"

/-- The metadata of a mod of the supported schema. -/
def ofConfigs (id : String) (configs : List String) : Metadata :=
  ⟨id, some supportedSchema, .ofList configs⟩

/-- The config name of one entry: a text, or an object that holds it under `config`. -/
def configName : Json → Except Fault String
  | .string name => .ok name
  | .object members =>
    match (Json.lookup? "config" members).bind Json.string? with
    | some name => .ok name
    | none => .error .entryWithoutConfig
  | entry => .error (.entryOfWrongType entry)

/-- The config names under `mixins`, which may be missing. -/
def configNames : Option Json → Except Fault (List String)
  | none => .ok []
  | some .null => .ok []
  | some (.array entries) => entries.mapM configName
  | some _ => .error .mixinsNotAnArray

/-- The metadata that a value describes. -/
def ofJson (root : Json) : Except Failure Metadata :=
  match root with
  | .object members =>
    match (Json.lookup? "id" members).bind Json.string? with
    | none => .error (.schema anonymous Fault.missingId.reason)
    | some id =>
      let schemaVersion := (Json.lookup? "schemaVersion" members).bind Json.nat?
      if schemaVersion = some supportedSchema then
        match configNames (Json.lookup? "mixins" members) with
        | .ok names => .ok ⟨id, schemaVersion, .ofList names⟩
        | .error fault => .error (.schema id fault.reason)
      else .ok { id, schemaVersion }
  | _ => .error (.schema anonymous Fault.notAnObject.reason)

/-- The metadata written in a text. -/
def ofText (text : String) : Except Failure Metadata :=
  match Json.readValue? text with
  | some root => ofJson root
  | none => .error .notJson

/-- The configs that come and go from one metadata to the next. -/
structure Diff where
  added : Std.ExtTreeSet String
  removed : Std.ExtTreeSet String

/-- Whether no config comes or goes. -/
def Diff.isEmpty (d : Diff) : Bool := d.added.isEmpty && d.removed.isEmpty

/-- The configs of an earlier metadata; there are none if there was no metadata. -/
def configsOf (previous : Option Metadata) : Std.ExtTreeSet String :=
  previous.elim ∅ Metadata.configs

/-- What changes from an earlier metadata, all configs being new if there was none. -/
def diffFrom (m : Metadata) (previous : Option Metadata) : Diff where
  added := m.configs.filter fun name => !(configsOf previous).contains name
  removed := (configsOf previous).filter fun name => !m.configs.contains name

@[simp] theorem configsOf_none : configsOf none = ∅ := rfl

@[simp] theorem configsOf_some (m : Metadata) : configsOf (some m) = m.configs := rfl

end Metadata

end MixinIndex
