import MixinIndex.Contribution.Index
import MixinIndex.Store.Environment

/-!
# Registrations

A project is registered with a binding: where its resources and declarations are found.  It may
be registered again while work for an earlier registration is under way; such work goes on, on a
registration that nobody asks for any more.

## Main definitions

* `Binding`: the sources and declarations of a project
* `Progress`: what was built for a registration
* `Registration`: a project, its binding, and what was built from it
* `Registry`: all registrations ever made, and which of them are in force

## Design notes

Registrations are numbered in the order in which they are made, and are never taken out of the
registry.  So a number keeps its meaning, and two registrations of one project are told apart
however alike their bindings are.
-/

namespace MixinIndex

/-- The sources and declarations of a project, by their names in the workspace. -/
structure Binding where
  /-- The source of the project's own mod. -/
  source : String
  /-- The sources of the mods it depends on, in order. -/
  classpath : List String
  declarations : String
  deriving DecidableEq

/-- The sources that a binding names, the project's own first. -/
def Binding.sources (b : Binding) : List String := b.source :: b.classpath

/-- How far the index of a registration has come. -/
inductive Phase where
  | unloaded
  | loading
  | loaded
  deriving DecidableEq

/-- The word for a phase. -/
def Phase.text : Phase → String
  | unloaded => "unloaded"
  | loading => "loading"
  | loaded => "loaded"

/-- What was built for a registration. -/
structure Progress where
  environment : Environment := {}
  phase : Phase := .unloaded
  /-- The index, which nobody sees before it is kept. -/
  index : Index := {}
  /-- Whether the index is kept for those who ask next. -/
  isKept : Bool := false
  /-- Whether an event is being applied. -/
  isLocked : Bool := false

namespace Progress

/-- A build begins. -/
def beginBuild (p : Progress) : Progress := { p with phase := .loading, index := {} }

/-- A build is complete. -/
def endBuild (environment : Environment) (p : Progress) : Progress :=
  { p with
    phase := .loaded
    index := p.index.markLoaded
    environment := environment
    isKept := true }

/-- The index is no longer kept. -/
def dropIndex (p : Progress) : Progress := { p with isKept := false }

/-- Change the index. -/
def modifyIndex (f : Index → Index) (p : Progress) : Progress := { p with index := f p.index }

end Progress

/-- A project, its binding, and what was built from it. -/
structure Registration where
  project : String
  binding : Binding
  progress : Progress := {}

/-- Change what was built for a registration. -/
def Registration.modify (f : Progress → Progress) (r : Registration) : Registration :=
  { r with progress := f r.progress }

/-- The number of a registration. -/
abbrev Generation := Nat

/-- All registrations ever made, the earliest first, and which of them are in force. -/
structure Registry where
  registrations : List Registration
  current : Std.ExtTreeMap String Generation
  registered : ∀ {project : String} {g : Generation}, current[project]? = some g →
    ∃ r, registrations[g]? = some r ∧ r.project = project

namespace Registry

/-- The registry in which nothing has been registered. -/
def empty : Registry where
  registrations := []
  current := ∅
  registered := by
    intro project g h
    rw [Std.ExtTreeMap.getElem?_empty] at h
    cases h

/-- Change what was built for the registration of a number. -/
def modify (x : Registry) (g : Generation) (f : Progress → Progress) : Registry where
  registrations := x.registrations.modify g (·.modify f)
  current := x.current
  registered := by
    intro project k h
    obtain ⟨r, hr, rfl⟩ := x.registered h
    refine ⟨if g = k then r.modify f else r, by simp [List.getElem?_modify, hr], ?_⟩
    split <;> rfl

/-- The index of the registration of a project that is in force is no longer kept. -/
def dropIndex (x : Registry) (project : String) : Registry :=
  match x.current[project]? with
  | some g => x.modify g Progress.dropIndex
  | none => x

/-- Register a project, in place of its earlier registration. -/
def register (x : Registry) (project : String) (binding : Binding) : Registry where
  registrations := (x.dropIndex project).registrations ++ [{ project, binding }]
  current := (x.dropIndex project).current.insert project (x.dropIndex project).registrations.length
  registered := by
    intro p g h
    rw [Std.ExtTreeMap.getElem?_insert] at h
    by_cases same : project = p
    · subst same
      simp only [Std.ReflCmp.compare_self, ↓reduceIte, Option.some.injEq] at h
      subst h
      exact ⟨_, List.getElem?_concat_length, rfl⟩
    · rw [if_neg (by simpa using same)] at h
      obtain ⟨r, hr, hp⟩ := (x.dropIndex project).registered h
      have inside := (List.getElem?_eq_some_iff.1 hr).1
      exact ⟨r, by rwa [List.getElem?_append_left inside], hp⟩

/-- Forget a project. -/
def remove (x : Registry) (project : String) : Registry where
  registrations := (x.dropIndex project).registrations
  current := (x.dropIndex project).current.erase project
  registered := by
    intro p g h
    rw [Std.ExtTreeMap.getElem?_erase] at h
    split at h
    · exact absurd h (by simp)
    · exact (x.dropIndex project).registered h

end Registry

end MixinIndex
