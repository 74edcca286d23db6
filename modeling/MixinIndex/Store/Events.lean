import MixinIndex.Augmentation.Index
import MixinIndex.Store.Build

/-!
# Questions and events

What a workspace answers about a project, and how changes of metadata and declarations are
brought into its index.

## Main definitions

* `Workspace.tryMixins`, `Work.mixins`: the applications to a target
* `Work.augmentations`: all that is done to a target, resolved against its declaration
* `Work.metadataChanged`, `Work.metadataRemoved`, `Work.typesChanged`: the events
-/

namespace MixinIndex

namespace Workspace

/-! ### Questions -/

/-- How far the index of a project has come. -/
def phase (w : Workspace) (project : String) : Phase :=
  match w.currentRegistration? project with
  | some r => r.progress.phase
  | none => .unloaded

/-- The mods of a project, as far as they are known. -/
def environment (w : Workspace) (project : String) : Option Environment :=
  (w.currentRegistration? project).map (·.progress.environment)

/-- The applications to a target if the index has been built. -/
def tryMixins (w : Workspace) (project : String) (target : TypeName) :
    Option (List Application) :=
  match w.currentRegistration? project with
  | some r =>
    if r.progress.phase = .loaded ∧ r.progress.isKept then
      some (r.progress.index.mixinsFor target)
    else none
  | none => none

end Workspace

/-- The augmentations of a target by the declared types among those applied to it. -/
def augmentationsOf (names : AnnotationNames) (c : Catalogue) (x : Index) (target : TypeName) :
    Except Failure Augmentations :=
  match c.find? target with
  | none => .error (.typeNotFound target)
  | some declaration =>
    .ok (Augmentations.ofTarget names declaration
      ((x.mixinsFor target).filterMap (c.find? ·.augmenting)))

namespace Work

/-- The applications to a target. -/
def mixins (project : String) (target : TypeName) : Work (Except Failure (List Application)) := do
  let result ← index project
  return result.map (·.mixinsFor target)

/-- Work for a registration once it is built, provided that it is still in force then. -/
def onceBuilt {α : Type} (g : Generation) (project : String) (work : Registration → Work α) :
    Work (Except Failure α) := do
  match ← built g with
  | none => return .error (.projectNotFound project)
  | some r => return .ok (← work r)

/-- The resolved augmentations of a target. -/
def augmentations (project : String) (target : TypeName) : Work (Except Failure Augmentations) :=
  forProject project fun g => do
    let result ← onceBuilt g project fun r => do
      let w ← workspace
      return augmentationsOf w.config.annotations (w.catalogue r.binding.declarations)
        r.progress.index target
    return result.bind id

end Work

/-! ### Events -/

namespace Progress

/-- Begin to apply an event. -/
def lock (p : Progress) : Progress := { p with isLocked := true }

/-- End the application of an event. -/
def unlock (p : Progress) : Progress := { p with isLocked := false }

/-- Put the project's own mod in place. -/
def setProjectMod (mod : Option LoadedMod) (p : Progress) : Progress :=
  { p with environment := { p.environment with project := mod } }

end Progress

/-- Whether an event is being applied to a registration. -/
def Workspace.isLocked (w : Workspace) (g : Generation) : Bool :=
  (w.registration? g).any (·.progress.isLocked)

namespace Work

/-- Apply an event to a registration, one event at a time. -/
def event {α : Type} (g : Generation) (project : String) (work : Registration → Work α) :
    Work (Except Failure α) := do
  await fun w => !w.isLocked g
  modify g fun _ => Progress.lock
  let result ← onceBuilt g project work
  modify g fun _ => Progress.unlock
  return result

/-- Bring new metadata of the project's own mod into the index: drop the configs that are no
longer declared, and read those that are new. -/
def applyMetadata (g : Generation) (metadata : Metadata) (r : Registration) :
    Work Metadata.Diff := do
  let diff := metadata.diffFrom r.progress.environment.projectMetadata
  modify g fun _ => Progress.modifyIndex (·.removeAll diff.removed.toList)
  loadConfigs g r.binding.declarations r.binding.source diff.added.toList
  modify g fun _ => Progress.setProjectMod (some ⟨r.binding.source, metadata⟩)
  return diff

/-- Drop the project's own mod, with its configs. -/
def dropMetadata (g : Generation) (r : Registration) : Work (Std.ExtTreeSet String) := do
  let configs := r.progress.environment.projectConfigs
  modify g fun _ => Progress.setProjectMod none
  modify g fun _ => Progress.modifyIndex (·.removeAll configs.toList)
  return configs

/-- Point the augmenting types among some types at the targets that they name now. -/
def retargetTypes (g : Generation) (types : List TypeName) (r : Registration) :
    Work (Std.ExtTreeSet TypeName) := do
  let targetsOf (w : Workspace) :=
    (w.catalogue r.binding.declarations).targetsOf w.config.annotations
  let w ← workspace
  modify g fun w => Progress.modifyIndex fun x => (x.retargetTypes (targetsOf w) types).2
  return (r.progress.index.retargetTypes (targetsOf w) types).1

/-- The project's metadata file has a new text.  A text that makes no sense changes nothing. -/
def metadataChanged (project text : String) : Work (Except Failure Metadata.Diff) :=
  forProject project fun g =>
    match Metadata.ofText text with
    | .error failure => return .error failure
    | .ok metadata => event g project (applyMetadata g metadata)

/-- The project's metadata file is gone. -/
def metadataRemoved (project : String) : Work (Except Failure (Std.ExtTreeSet String)) :=
  forProject project fun g => event g project (dropMetadata g)

/-- The declarations of some types have changed. -/
def typesChanged (project : String) (types : List TypeName) :
    Work (Except Failure (Std.ExtTreeSet TypeName)) :=
  forProject project fun g => event g project (retargetTypes g types)

end Work

end MixinIndex
