import Std.Data.ExtTreeMap
import MixinIndex.Failure
import MixinIndex.Resource.Tree

/-!
# Sources of resources

A mod's resources are read by path, from files held in memory or from below a directory.

## Main definitions

* `Source`: where the resources of a mod come from
* `Source.read`: the text of a resource
* `Source.readOptional`: the same, with absence as a result
-/

namespace MixinIndex

/-- Where the resources of a mod come from. -/
inductive Source where
  /-- Files held in memory under a name. -/
  | memory (name : String) (files : Std.ExtTreeMap String String)
  /-- The files below a directory. -/
  | directory (root : String)

namespace Source

/-- The source as it is named in reports. -/
def describe : Source → String
  | memory name _ => "memory:" ++ name
  | directory root => "dir:" ++ root

/-- The text behind a full path, which stands for a resource of a source. -/
def textAt (disk : Disk) (source path full : String) : Except Failure String :=
  match disk.read full with
  | .text text => .ok text
  | .missing => .error (.resourceNotFound source path)
  | .unreadable => .error .unreadable

/-- The text of a resource. -/
def read (disk : Disk) (s : Source) (path : String) : Except Failure String :=
  match s with
  | memory name files =>
    match files[path]? with
    | some text => .ok text
    | none => .error (.resourceNotFound (memory name files).describe path)
  | directory root =>
    match Path.locate? root path with
    | some full => textAt disk (directory root).describe path full
    | none => .error (.resourceNotFound (directory root).describe path)

/-- The result of reading a resource that may be absent. -/
def optional : Except Failure String → Except Failure (Option String)
  | .ok text => .ok (some text)
  | .error (.resourceNotFound ..) => .ok none
  | .error failure => .error failure

/-- The text of a resource that may be absent. -/
def readOptional (disk : Disk) (s : Source) (path : String) : Except Failure (Option String) :=
  optional (s.read disk path)

/-- The file in memory at a path. -/
def file? : Source → String → Option String
  | memory _ files, path => files[path]?
  | directory _, _ => none

/-- A source with a file in memory put at a path; a directory is left as it is. -/
def putFile (path text : String) : Source → Source
  | memory name files => memory name (files.insert path text)
  | directory root => directory root

/-- A source without the file in memory at a path; a directory is left as it is. -/
def removeFile (path : String) : Source → Source
  | memory name files => memory name (files.erase path)
  | directory root => directory root

/-- A source without files in memory. -/
def empty (name : String) : Source := memory name ∅

end Source

end MixinIndex
