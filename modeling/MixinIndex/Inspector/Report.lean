import MixinIndex.Augmentation.Json
import MixinIndex.Config.File
import MixinIndex.Contribution.Json
import MixinIndex.Inspector.Arguments
import MixinIndex.Store.Events

/-!
# The inspector's report

The inspector builds the index of one project and shows it, with the augmentations of a target if
one is given.

## Main definitions

* `Arguments.report?`: the report on a project
* `Request.outcome`: exit status and report of a request
* `Arguments.paths`: the files that a report draws on

## Design notes

Everything is read through a `Disk`.  The paths that are needed depend on what is found in some
of the files; `Arguments.paths` names those that are known to be needed so far.
-/

namespace MixinIndex

namespace Arguments

/-! ### Reading -/

/-- The configuration that the arguments name, or the default one. -/
def config? (disk : Disk) (a : Arguments) : Option Config :=
  match a.config with
  | none => some {}
  | some path => (Config.ofContent (disk.read path)).toOption

/-- The declared types. -/
def catalogue? (disk : Disk) (a : Arguments) : Option Catalogue :=
  match disk.read a.declarations with
  | .text text => (Catalogue.empty.load? text).map (·.2)
  | _ => none

/-- The directories of all resources, the project's own first. -/
def roots (a : Arguments) (config : Config) : List String :=
  Path.join a.project config.projectResources :: a.classpath

/-- The name of the declarations in the workspace. -/
def declarationsName : String := "declarations"

/-- The workspace in which a project is inspected; sources go by their roots. -/
def workspace (disk : Disk) (a : Arguments) (config : Config) (catalogue : Catalogue) :
    Workspace :=
  let roots := a.roots config
  let w : Workspace := {
    config := config
    sources := roots.foldl (fun sources root => sources.insert root (.directory root)) ∅
    catalogues := .ofList [(declarationsName, catalogue)]
    disk := disk }
  w.register a.project ⟨Path.join a.project config.projectResources, a.classpath,
    declarationsName⟩

/-! ### Showing -/

/-- A summary with its key and label. -/
def encodeSummary (s : Augmentation.Summary) : Json :=
  .object [("member", .string s.member.display), ("label", .string s.display),
    ("detail", s.encode)]

/-- The augmentations of a target, which is shown as it was given. -/
def encodeAugmentations (target : String) (a : Augmentations) : Json :=
  .object [("target", .string target), ("summaries", .array (a.summaries.map encodeSummary)),
    ("diagnostics", .array (a.diagnostics.map Diagnostic.encode))]

/-- The part of the report about the index. -/
def encodeIndex (a : Arguments) (x : Index) : List (String × Json) :=
  [("project", .string a.project), ("stats", .object x.encodeCounts),
    ("index", x.encodeSnapshot)]

/-- The report on a project; there is none if anything needed for it is missing. -/
def report? (disk : Disk) (a : Arguments) : Option Json := do
  let config ← a.config? disk
  let catalogue ← a.catalogue? disk
  let w := a.workspace disk config catalogue
  let (result, w) ← (Work.index a.project).complete Workspace.readResource 1 w
  let x ← result.toOption
  match a.target with
  | none => return .object (a.encodeIndex x)
  | some target =>
    let (result, _) ←
      (Work.augmentations a.project (.ofText target)).complete Workspace.readResource 1 w
    let augmentations ← result.toOption
    return .object (a.encodeIndex x ++
      [("augmentations", encodeAugmentations target augmentations)])

/-! ### Files -/

/-- The configs that the metadata below a root names, as far as it is known. -/
def configsBelow (disk : Disk) (metadataFile root : String) : List String :=
  match LoadedMod.ofResource? root ((Source.directory root).read disk metadataFile) with
  | some mod => mod.metadata.configs.toList
  | none => []

/-- The files needed below a root. -/
def pathsBelow (disk : Disk) (metadataFile root : String) : List String :=
  (metadataFile :: configsBelow disk metadataFile root).filterMap (Path.locate? root)

/-- The files that are known to be needed. -/
def paths (disk : Disk) (a : Arguments) : List String :=
  a.config.toList ++ [a.declarations] ++
    match a.config? disk with
    | some config => (a.roots config).flatMap (pathsBelow disk config.metadataFile)
    | none => []

end Arguments

/-- Exit status and report of a request. -/
structure Outcome where
  status : Nat
  report : Option Json

/-- Exit status and report of a request: help is always given, a report only if all that is
needed for it is there. -/
def Request.outcome (disk : Disk) : Request → Outcome
  | .help => ⟨0, none⟩
  | .misuse => ⟨2, none⟩
  | .inspect a =>
    match a.report? disk with
    | some report => ⟨0, some report⟩
    | none => ⟨1, none⟩

end MixinIndex
