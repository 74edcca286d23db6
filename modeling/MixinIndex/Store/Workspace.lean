import MixinIndex.Config.Basic
import MixinIndex.Declaration.Catalogue
import MixinIndex.Resource.Source
import MixinIndex.Store.Operation

/-!
# Workspaces

Everything that the answers to requests depend on: the registered projects, and the sources and
declarations that their bindings name.

## Main definitions

* `Workspace`: the state
* `Workspace.current?`, `Workspace.registration?`: the registrations of a project
* `Workspace.modify`: change what was built for a registration
* `Workspace.read`: the resource of a source, as it is now
-/

namespace MixinIndex

/-- What happens while a resource is read for the first time. -/
structure Interruption where
  source : String
  path : String
  operations : List Operation

/-- The registered projects, and what their bindings name. -/
structure Workspace where
  config : Config := {}
  registry : Registry := .empty
  sources : Std.ExtTreeMap String Source := ∅
  catalogues : Std.ExtTreeMap String Catalogue := ∅
  /-- The files that directories hold. -/
  disk : Disk := fun _ => .missing
  /-- The interruptions still to come. -/
  interruptions : List Interruption := []
  /-- The answers to the requests of past interruptions. -/
  log : List Answer := []

namespace Workspace

/-! ### Registrations -/

/-- The number of the registration of a project that is in force. -/
def current? (w : Workspace) (project : String) : Option Generation := w.registry.current[project]?

/-- The registration of a number. -/
def registration? (w : Workspace) (g : Generation) : Option Registration :=
  w.registry.registrations[g]?

/-- Whether a registration is in force. -/
def isCurrent (w : Workspace) (g : Generation) : Bool :=
  (w.registration? g).any fun r => w.current? r.project == some g

/-- The registration of a project that is in force. -/
def currentRegistration? (w : Workspace) (project : String) : Option Registration :=
  (w.current? project).bind w.registration?

/-- Change what was built for a registration. -/
def modify (w : Workspace) (g : Generation) (f : Progress → Progress) : Workspace :=
  { w with registry := w.registry.modify g f }

/-- The names of all projects with a registration in force. -/
def projectNames (w : Workspace) : List String := w.registry.current.keys

/-- Register a project. -/
def register (w : Workspace) (project : String) (binding : Binding) : Workspace :=
  { w with registry := w.registry.register project binding }

/-- Forget a project. -/
def removeProject (w : Workspace) (project : String) : Workspace :=
  { w with registry := w.registry.remove project }

@[simp] theorem current?_modify (w : Workspace) (g : Generation) (f : Progress → Progress)
    (project : String) : (w.modify g f).current? project = w.current? project := rfl

theorem registration?_modify (w : Workspace) (g k : Generation) (f : Progress → Progress) :
    (w.modify g f).registration? k =
      if g = k then (w.registration? k).map (·.modify f) else w.registration? k := by
  simp only [registration?, modify, Registry.modify, List.getElem?_modify]
  by_cases same : g = k <;> simp [same]

@[simp] theorem registration?_modify_self (w : Workspace) (g : Generation)
    (f : Progress → Progress) :
    (w.modify g f).registration? g = (w.registration? g).map (·.modify f) := by
  simp [registration?_modify]

@[simp] theorem registration?_modify_of_ne (w : Workspace) {g k : Generation} (different : g ≠ k)
    (f : Progress → Progress) : (w.modify g f).registration? k = w.registration? k := by
  simp [registration?_modify, different]

@[simp] theorem isCurrent_modify (w : Workspace) (g k : Generation) (f : Progress → Progress) :
    (w.modify g f).isCurrent k = w.isCurrent k := by
  rw [isCurrent, isCurrent, registration?_modify]
  by_cases same : g = k
  · rw [if_pos same]
    cases w.registration? k <;> rfl
  · rw [if_neg same]
    rfl

/-! ### Sources and declarations -/

/-- The source of a name. -/
def source (w : Workspace) (name : String) : Source :=
  (w.sources[name]?).getD (Source.empty name)

/-- The resource of a source, as it is now. -/
def read (w : Workspace) (source path : String) : Except Failure String :=
  (w.source source).read w.disk path

/-- The declarations of a name. -/
def catalogue (w : Workspace) (name : String) : Catalogue := (w.catalogues[name]?).getD .empty

/-- Change the source of a name. -/
def modifySource (w : Workspace) (name : String) (f : Source → Source) : Workspace :=
  { w with sources := w.sources.insert name (f (w.source name)) }

/-- Change the declarations of a name. -/
def modifyCatalogue (w : Workspace) (name : String) (f : Catalogue → Catalogue) : Workspace :=
  { w with catalogues := w.catalogues.insert name (f (w.catalogue name)) }

end Workspace

end MixinIndex
