import MixinIndex.Text.Split

/-!
# Resource paths

Paths with slashes between their segments.  A resource path belongs to a root directory; it may
not start anew at the top of the file system or climb out of the root.

## Main definitions

* `Path.join`: a path as seen from a root
* `Path.escapes`: whether a path is absolute or climbs
* `Path.locate?`: the full path of a resource that stays below its root
-/

namespace MixinIndex.Path

open Text

/-- The segment that stands for the directory above. -/
def parent : List Char := ['.', '.']

/-- The segment that stands for the directory itself. -/
def current : List Char := ['.']

/-- The segments between the slashes of a path; some may be empty. -/
def segments (path : String) : List (List Char) := splitAll '/' path.toList

/-- Whether a path starts at the top of the file system. -/
def isAbsolute (path : String) : Bool := path.toList.head? == some '/'

/-- Whether a path is absolute or has a segment that climbs. -/
def escapes (path : String) : Bool := isAbsolute path || (segments path).contains parent

/-- A path as seen from a root: an absolute path stands for itself. -/
def join (root path : String) : String :=
  if isAbsolute path || root.isEmpty then path
  else if root.toList.getLast? = some '/' then root ++ path
  else root ++ "/" ++ path

/-- The full path of a resource, unless it could leave its root. -/
def locate? (root path : String) : Option String :=
  if escapes path then none else some (join root path)

theorem locate?_eq_none {root path : String} :
    locate? root path = none ↔ isAbsolute path = true ∨ parent ∈ segments path := by
  cases h : isAbsolute path <;> simp [locate?, escapes, h]

end MixinIndex.Path
