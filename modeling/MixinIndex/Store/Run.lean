import MixinIndex.Store.Events

/-!
# Running operations

How a workspace performs requests one after another, and requests inside the reading of a
resource.

## Main definitions

* `Operation.work`: what has to be done for a request
* `Workspace.perform`: perform one operation with a given way of reading
* `Workspace.reader`: the way of reading in which interruptions come up
* `Workspace.run`: perform one operation, with the answers of the interruptions it met
-/

namespace MixinIndex

/-- What has to be done for a request. -/
def Operation.work : Operation → Work Answer
  | register project binding =>
    .change (·.register project binding) do return .projects (← Work.workspace).projectNames
  | removeProject project => do
    let w ← Work.workspace
    .change (·.removeProject project) (return .flag (w.current? project).isSome)
  | projects => do return .projects (← Work.workspace).projectNames
  | phase project => do return .phase ((← Work.workspace).phase project)
  | environment project => do return .environment ((← Work.workspace).environment project)
  | index project => do return .ofResult .index (← Work.index project)
  | tryMixins project target => do
    return .knownMixins ((← Work.workspace).tryMixins project target)
  | mixins project target => do return .ofResult .mixins (← Work.mixins project target)
  | augmentations project target => do
    return .ofResult .augmentations (← Work.augmentations project target)
  | metadataChanged project text => do
    return .ofResult .diff (← Work.metadataChanged project text)
  | metadataRemoved project => do return .ofResult .configs (← Work.metadataRemoved project)
  | typesChanged project types => do
    return .ofResult .targets (← Work.typesChanged project types)
  | putFile source path text => do
    let w ← Work.workspace
    .change (·.modifySource source (.putFile path text))
      (return .file ((w.source source).file? path))
  | removeFile source path => do
    let w ← Work.workspace
    .change (·.modifySource source (.removeFile path))
      (return .file ((w.source source).file? path))
  | declare declarations declaration => do
    let w ← Work.workspace
    .change (·.modifyCatalogue declarations (·.insert declaration))
      (return .flag ((w.catalogue declarations).contains declaration.name))
  | undeclare declarations type => do
    let w ← Work.workspace
    .change (·.modifyCatalogue declarations (·.erase type))
      (return .flag ((w.catalogue declarations).contains type))

namespace Workspace

/-- Perform one operation; there is no answer if it waits for what nobody will do.  Work begins
anew only if it was interrupted, so one more attempt than there are interruptions is enough. -/
def perform (read : Reader) (operation : Operation) (w : Workspace) :
    Option (Answer × Workspace) :=
  operation.work.complete read (w.interruptions.length + 1) w

/-- Take the interruption of a source and path out of those still to come. -/
def takeInterruption (source path : String) :
    List Interruption → Option (List Operation × List Interruption)
  | [] => none
  | i :: is =>
    if i.source = source ∧ i.path = path then some (i.operations, is)
    else (takeInterruption source path is).map fun (operations, is) => (operations, i :: is)

/-- Perform operations in order and log their answers. -/
def performAll (read : Reader) : List Operation → Workspace → Option Workspace
  | [], w => some w
  | operation :: operations, w =>
    (perform read operation w).bind fun (answer, w) =>
      performAll read operations { w with log := w.log ++ [answer] }

/-- Read a resource, after the operations of its interruption if one is still to come.  The
number bounds how deep interruptions can be nested. -/
def readerWithin : Nat → Reader
  | 0 => readResource
  | depth + 1 => fun source path w =>
    match takeInterruption source path w.interruptions with
    | none => readResource source path w
    | some (operations, interruptions) =>
      (performAll (readerWithin depth) operations { w with interruptions := interruptions }).bind
        (readResource source path)

/-- The way of reading in which the interruptions of a workspace come up.  Each comes up once, so
they are nested no deeper than there are any. -/
def reader (w : Workspace) : Reader := readerWithin w.interruptions.length

/-- Perform one operation: its answer, the answers logged meanwhile, and the workspace after. -/
def run (operation : Operation) (w : Workspace) : Option (Answer × List Answer × Workspace) :=
  (perform w.reader operation { w with log := [] }).map fun (answer, w) => (answer, w.log, w)

end Workspace

end MixinIndex
