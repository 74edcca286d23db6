import MixinIndex.Failure
import MixinIndex.Json.Reader
import MixinIndex.Json.Writer
import MixinIndex.Text.Quoted

/-!
# Mixin config files

A mixin config names a package and, in three lists, augmenting types of that package:

```json
{"package": "com.x.mixin", "mixins": ["FooMixin"], "client": ["ClientMixin"], "server": null}
```

## Main definitions

* `ConfigFile`: the package and the three lists
* `ConfigFile.ofText`: the config written in a text
* `ConfigFile.augmentingTypes`: the qualified types of all three lists, each once

## Design notes

The fields are looked at in the order of their names, and only then is a missing package
reported; of two faults the first in this order is the one reported.
-/

namespace MixinIndex

/-- A mixin config: the file's name, its package and its lists of local names. -/
structure ConfigFile where
  name : String
  package : String
  mixins : List String
  client : List String
  server : List String
  deriving DecidableEq

namespace ConfigFile

/-- What can be wrong with the shape of a config file. -/
inductive Fault where
  | notAnObject
  | expectedString (found : Json)
  | expectedSequence (found : Json)
  | missingPackage

/-- A value as it is shown in a report. -/
def shown : Json → String
  | .null => "null"
  | .bool value => "boolean `" ++ (if value then "true" else "false") ++ "`"
  | .int value => "integer `" ++ toString value ++ "`"
  | .float negative magnitude =>
    "floating point `" ++ Json.floatText negative magnitude ++ "`"
  | .string text => "string " ++ Text.quoted text
  | .array _ => "sequence"
  | .object _ => "map"
  | .unreadable => "null"

/-- The reason given for a fault. -/
def Fault.reason : Fault → String
  | notAnObject => "root is not an object"
  | expectedString found => "invalid type: " ++ shown found ++ ", expected a string"
  | expectedSequence found => "invalid type: " ++ shown found ++ ", expected a sequence"
  | missingPackage => "missing field `package`"

/-- A text. -/
def string (json : Json) : Except Fault String :=
  match json.string? with
  | some text => .ok text
  | none => .error (.expectedString json)

/-- A list of texts, empty where it is absent or null. -/
def strings : Option Json → Except Fault (List String)
  | none => .ok []
  | some .null => .ok []
  | some (.array items) => items.mapM string
  | some json => .error (.expectedSequence json)

/-- The config of a given name that an object describes. -/
def ofMembers (name : String) (members : List (String × Json)) : Except Fault ConfigFile := do
  let client ← strings (Json.lookup? "client" members)
  let mixins ← strings (Json.lookup? "mixins" members)
  let package ← (Json.lookup? "package" members).mapM string
  let server ← strings (Json.lookup? "server" members)
  match package with
  | some package => return { name, package, mixins, client, server }
  | none => throw .missingPackage

/-- The config of a given name that a value describes. -/
def ofJson (name : String) : Json → Except Fault ConfigFile
  | .object members => ofMembers name members
  | _ => .error .notAnObject

/-- The config of a given name written in a text. -/
def ofText (name text : String) : Except Failure ConfigFile :=
  match Json.readValue? text with
  | some root => (ofJson name root).mapError fun fault => .schema name fault.reason
  | none => .error .notJson

/-- The list with only the first of equal members. -/
def firsts (types : List TypeName) : List TypeName :=
  types.foldl (fun seen type => if type ∈ seen then seen else seen ++ [type]) []

/-- The qualified augmenting types of all three lists, each once, in the order in which they are
first named. -/
def augmentingTypes (c : ConfigFile) : List TypeName :=
  firsts ((c.mixins ++ c.client ++ c.server).map (TypeName.qualified c.package))

end ConfigFile

end MixinIndex
