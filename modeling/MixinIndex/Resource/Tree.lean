import MixinIndex.Resource.Path
import MixinIndex.Text.Offset

/-!
# File trees

What is found under a path: in general by any means, and in particular in a tree of files whose
top is the working directory.

## Main definitions

* `Disk.Content`: what a path leads to
* `Disk`: the content behind every path
* `FileTree`: a tree of files and directories
* `FileTree.disk`: the tree as a disk

## Design notes

A path is walked segment by segment.  Empty segments and single dots stay in place, two dots
climb; each of them, and a slash at the end too, asks for a directory.  Nothing is known of what
lies outside the tree but that its directories exist.
-/

namespace MixinIndex

open Text

/-- What a path leads to. -/
inductive Disk.Content where
  | text (text : String)
  /-- There is nothing of that name. -/
  | missing
  /-- There is something, but no text to be read. -/
  | unreadable
  deriving DecidableEq, Inhabited

/-- The content behind every path. -/
abbrev Disk := String → Disk.Content

/-- Files by their segments from the top, and further directories; the content of a file is absent
if it is no text. -/
structure FileTree where
  files : List (List (List Char) × Option String) := []
  directories : List (List (List Char)) := []

namespace FileTree

/-- The segments that name something in a tree, of a path that does not climb. -/
def namingSegments (path : String) : List (List Char) :=
  (Path.segments path).filter fun segment => segment ≠ [] && segment ≠ Path.current

/-- Add a file, in place of one of the same path. -/
def addFile (t : FileTree) (path : String) (content : Option String) : FileTree :=
  { t with files := (namingSegments path, content) :: t.files }

/-- Add a directory. -/
def addDirectory (t : FileTree) (path : String) : FileTree :=
  { t with directories := namingSegments path :: t.directories }

/-- Where a walk stands: at some segments from the top, or outside the tree. -/
inductive Place where
  | inside (segments : List (List Char))
  | outside

/-- The content of the file at a place, the outer `none` if no file is there. -/
def file? (t : FileTree) (segments : List (List Char)) : Option (Option String) :=
  (t.files.find? (·.1 == segments)).map (·.2)

/-- Whether segments lead to a directory. -/
def isDirectory (t : FileTree) (segments : List (List Char)) : Bool :=
  segments.isEmpty || t.directories.any segments.isPrefixOf ||
    t.files.any fun file => segments.isPrefixOf file.1 && segments != file.1

/-- What a walk finds at its end. -/
def contentAt (t : FileTree) : Place → Disk.Content
  | .inside segments =>
    match t.file? segments with
    | some (some text) => .text text
    | _ => .unreadable
  | .outside => .unreadable

/-- The longest name of a file, in bytes. -/
def maxNameLength : Nat := 255

/-- The longest path, in bytes. -/
def maxPathLength : Nat := 4095

/-- The place of one name below a place. -/
def child (t : FileTree) (segment : List Char) (place : Place) : Except Disk.Content Place :=
  if maxNameLength < byteLength segment then .error .unreadable
  else
    match place with
    | .outside => .error .missing
    | .inside segments =>
      let below := segments ++ [segment]
      if (t.file? below).isSome || t.isDirectory below then .ok (.inside below)
      else .error .missing

/-- The place above a place. -/
def above : Place → Place
  | .outside => .outside
  | .inside [] => .outside
  | .inside segments => .inside segments.dropLast

/-- Whether a walk can go on from a place. -/
def canEnter (t : FileTree) : Place → Bool
  | .outside => true
  | .inside segments => t.isDirectory segments

/-- Walk the rest of a path. -/
def walk (t : FileTree) : Place → List (List Char) → Disk.Content
  | place, [] => t.contentAt place
  | place, segment :: rest =>
    if !t.canEnter place then .unreadable
    else if segment = [] ∨ segment = Path.current then t.walk place rest
    else if segment = Path.parent then t.walk (above place) rest
    else
      match t.child segment place with
      | .ok next => t.walk next rest
      | .error content => content

/-- The content behind every path of a tree whose top is the working directory. -/
def disk (t : FileTree) : Disk := fun path =>
  if path.isEmpty then .missing
  else if maxPathLength < byteLength path.toList then .unreadable
  else t.walk (if Path.isAbsolute path then .outside else .inside []) (Path.segments path)

end FileTree

/-- The content behind a path; a null character occurs in no name of a file. -/
def Disk.read (disk : Disk) (path : String) : Disk.Content :=
  if '\x00' ∈ path.toList then .unreadable else disk path

end MixinIndex
