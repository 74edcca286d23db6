import MixinIndex.Contribution.Loading
import MixinIndex.Store.Work

/-!
# Building indexes

How the index of a registration is built from the resources that its binding names.

## Main definitions

* `Work.loadConfigs`: read configs into the index of a registration
* `Work.discover`: find the mods of a binding
* `Work.build`: find the mods of a registration and read all their configs
* `Work.built`: a registration, built and in force
* `Work.index`: the index of a project, built if necessary

## Design notes

A build belongs to one registration and is finished even if another has come into force meanwhile;
then its result is not used.  A request for the index starts over with the registration now in
force.  A request that is about one registration fails.
-/

namespace MixinIndex

namespace Work

/-! ### Configs -/

/-- Read configs of a source into the index of a registration. -/
def loadConfigs (g : Generation) (declarations source : String) : List String → Work Unit
  | [] => return ()
  | config :: configs => do
    let resource ← resource source config
    modify g fun w => Progress.modifyIndex
      (·.tryLoad w.config.annotations (w.catalogue declarations) config resource)
    loadConfigs g declarations source configs

/-- Read the configs of mods into the index of a registration. -/
def loadMods (g : Generation) (declarations : String) : List LoadedMod → Work Unit
  | [] => return ()
  | mod :: mods => do
    loadConfigs g declarations mod.source mod.metadata.configs.toList
    loadMods g declarations mods

/-! ### Mods -/

/-- The mod found in a source. -/
def discoverMod (source : String) : Work (Option LoadedMod) := do
  let w ← workspace
  let resource ← resource source w.config.metadataFile
  return LoadedMod.ofResource? source resource

/-- The mods found in several sources. -/
def discoverMods : List String → Work (List LoadedMod)
  | [] => return []
  | source :: sources => do
    let mod ← discoverMod source
    let mods ← discoverMods sources
    return mod.toList ++ mods

/-- The mods of a binding. -/
def discover (binding : Binding) : Work Environment := do
  let project ← discoverMod binding.source
  let classpath ← discoverMods binding.classpath
  return { project, classpath }

/-! ### Builds -/

/-- Build the index of a registration. -/
def build (g : Generation) (binding : Binding) : Work Unit := do
  modify g fun _ => Progress.beginBuild
  let environment ← discover binding
  loadMods g binding.declarations environment.mods
  modify g fun _ => Progress.endBuild environment

end Work

/-- Whether the index of a registration is being built. -/
def Workspace.isLoading (w : Workspace) (g : Generation) : Bool :=
  (w.registration? g).any (·.progress.phase = .loading)

namespace Work

/-- See to it that the index of a registration is built: there may be one that is kept, or one
that somebody else is building. -/
def ensureBuilt (g : Generation) : Work Unit := do
  match (← workspace).registration? g with
  | none => return ()
  | some r =>
    if r.progress.isKept then return ()
    else if r.progress.phase = .loading then await fun w => !w.isLoading g
    else build g r.binding

/-- A registration, built and in force.  The index of a registration that is no longer in force is
not kept. -/
def built (g : Generation) : Work (Option Registration) := do
  ensureBuilt g
  let w ← workspace
  if w.isCurrent g then return w.registration? g
  else do
    modify g fun _ => Progress.dropIndex
    return none

/-- Work for the registration of a project that is in force. -/
def forProject {α : Type} (project : String) (work : Generation → Work (Except Failure α)) :
    Work (Except Failure α) := do
  match ← currentOf project with
  | none => return .error (.projectNotFound project)
  | some g => work g

/-- The index of a project, built if necessary. -/
def index (project : String) : Work (Except Failure Index) :=
  forProject project fun g => do
    match ← built g with
    | some r => return .ok r.progress.index
    | none => restart

end Work

end MixinIndex
