import MixinIndex.Augmentation.Bucket
import MixinIndex.Declaration.Basic
import MixinIndex.Store.Registration

/-!
# Operations

What can be asked of a workspace, and how it answers.

## Main definitions

* `Operation`: the requests
* `Answer`: the answers
-/

namespace MixinIndex

/-- A request to a workspace. -/
inductive Operation where
  /-- Register a project. -/
  | register (project : String) (binding : Binding)
  /-- Forget a project. -/
  | removeProject (project : String)
  /-- Name all registered projects. -/
  | projects
  /-- How far a project's index has come. -/
  | phase (project : String)
  /-- The mods of a project, as far as they are known. -/
  | environment (project : String)
  /-- The index of a project, built if necessary. -/
  | index (project : String)
  /-- The applications to a target, if the index has been built. -/
  | tryMixins (project : String) (target : TypeName)
  /-- The applications to a target. -/
  | mixins (project : String) (target : TypeName)
  /-- The resolved augmentations of a target. -/
  | augmentations (project : String) (target : TypeName)
  /-- The project's metadata file has a new text. -/
  | metadataChanged (project : String) (text : String)
  /-- The project's metadata file is gone. -/
  | metadataRemoved (project : String)
  /-- The declarations of some types have changed. -/
  | typesChanged (project : String) (types : List TypeName)
  /-- Put a file into a source. -/
  | putFile (source path text : String)
  /-- Remove a file from a source. -/
  | removeFile (source path : String)
  /-- Add a declaration to a catalogue. -/
  | declare (declarations : String) (declaration : Declaration)
  /-- Remove a declaration from a catalogue. -/
  | undeclare (declarations : String) (type : TypeName)

/-- An answer of a workspace. -/
inductive Answer where
  | failed (failure : Failure)
  | flag (value : Bool)
  | projects (names : List String)
  | phase (phase : Phase)
  | environment (environment : Option Environment)
  | index (index : Index)
  | mixins (applications : List Application)
  | knownMixins (applications : Option (List Application))
  | augmentations (augmentations : Augmentations)
  | diff (diff : Metadata.Diff)
  | configs (configs : Std.ExtTreeSet String)
  | targets (targets : Std.ExtTreeSet TypeName)
  | file (text : Option String)

/-- The answer of a request that may fail. -/
def Answer.ofResult {α : Type} (answer : α → Answer) : Except Failure α → Answer
  | .ok value => answer value
  | .error failure => .failed failure

end MixinIndex
