import Std.Data.ExtTreeSet
import MixinIndex.Contribution.Basic
import MixinIndex.Contribution.Tally

/-!
# The index of a project

What the loaded configs contribute: the types that each lists, and the applications of these
types.  Applications are found by target and by config.

## Main definitions

* `Index`: the contributions of all loaded configs
* `Index.replace`, `Index.remove`: set or drop what one config contributes
* `Index.retarget`: point an augmenting type at other targets, in all configs that list it
* `Index.mixinsFor`, `Index.isAugmenting`, `Index.snapshot`: the questions that the index answers

## Design notes

Several configs may contribute the same application.  A tally of the configs that hold it decides
when it leaves the view by target: with the last of them.
-/

namespace MixinIndex

/-- The contributions of all loaded configs. -/
structure Index where
  /-- The applications to each target. -/
  byTarget : Std.ExtTreeMap TypeName (Std.ExtTreeSet Application) := ∅
  /-- The applications that each config contributes. -/
  byConfig : Std.ExtTreeMap String (Std.ExtTreeSet Application) := ∅
  /-- The types that each config lists. -/
  listed : Std.ExtTreeMap String (Std.ExtTreeSet TypeName) := ∅
  /-- How many configs contribute an application. -/
  holders : Tally Application := {}
  /-- How many configs list a type. -/
  listings : Tally TypeName := {}
  /-- Whether the first build is complete. -/
  isLoaded : Bool := false

namespace Index

/-! ### One application -/

/-- The applications to a target. -/
def bucket (x : Index) (target : TypeName) : Std.ExtTreeSet Application :=
  (x.byTarget[target]?).getD ∅

/-- One more config contributes an application. -/
def acquire (x : Index) (a : Application) : Index :=
  { x with
    holders := x.holders.raise a
    byTarget :=
      if x.holders.contains a then x.byTarget
      else x.byTarget.insert a.target ((x.bucket a.target).insert a) }

/-- A view by target without an application, and without its target if nothing else is left. -/
def hide (byTarget : Std.ExtTreeMap TypeName (Std.ExtTreeSet Application)) (a : Application) :
    Std.ExtTreeMap TypeName (Std.ExtTreeSet Application) :=
  match byTarget[a.target]? with
  | none => byTarget
  | some bucket =>
    if (bucket.erase a).isEmpty then byTarget.erase a.target
    else byTarget.insert a.target (bucket.erase a)

/-- One config less contributes an application. -/
def release (x : Index) (a : Application) : Index :=
  { x with
    holders := x.holders.lower a
    byTarget := if x.holders.isLast a then hide x.byTarget a else x.byTarget }

/-- One more config contributes each of some applications. -/
def acquireAll (x : Index) (as : List Application) : Index := as.foldl acquire x

/-- One config less contributes each of some applications. -/
def releaseAll (x : Index) (as : List Application) : Index := as.foldl release x

/-! ### Whole configs -/

/-- The applications that a config contributes. -/
def ofConfig (x : Index) (config : String) : Std.ExtTreeSet Application :=
  (x.byConfig[config]?).getD ∅

/-- The types that a config lists. -/
def listedBy (x : Index) (config : String) : Std.ExtTreeSet TypeName :=
  (x.listed[config]?).getD ∅

/-- Drop what a config contributes; also say what that was. -/
def remove (x : Index) (config : String) : Std.ExtTreeSet Application × Index :=
  let removed := x.ofConfig config
  (removed, { x with
    listings := (x.listedBy config).toList.foldl Tally.lower x.listings
    listed := x.listed.erase config
    byConfig := x.byConfig.erase config }.releaseAll removed.toList)

/-- Drop what several configs contribute. -/
def removeAll (configs : List String) (x : Index) : Index :=
  configs.foldl (fun x config => (x.remove config).2) x

/-- Set what a config contributes; also count its applications. -/
def replace (x : Index) (config : String) (types : List TypeName)
    (applications : List Application) : Nat × Index :=
  let types := Std.ExtTreeSet.ofList types
  let applications := Std.ExtTreeSet.ofList applications
  let y := (x.remove config).2
  (applications.size, { y with
    listings := types.toList.foldl Tally.raise y.listings
    listed := y.listed.insert config types
    byConfig := y.byConfig.insert config applications }.acquireAll applications.toList)

/-- Point an augmenting type at other targets in one config; also say where it pointed. -/
def retargetIn (augmenting : TypeName) (targets : Std.ExtTreeSet TypeName) (x : Index)
    (config : String) : List TypeName × Index :=
  let new := Application.toTargets augmenting targets.toList
  match x.byConfig[config]? with
  | none => ([], x.acquireAll new)
  | some applications =>
    let old := applications.toList.filter (·.augmenting == augmenting)
    let bucket := new.foldl (·.insert ·) (old.foldl (·.erase ·) applications)
    (old.map (·.target),
      ({ x with byConfig := x.byConfig.insert config bucket }.releaseAll old).acquireAll new)

/-- Point an augmenting type at other targets in some configs, collecting the targets touched. -/
def retargetAll (augmenting : TypeName) (targets : Std.ExtTreeSet TypeName) :
    List String → Std.ExtTreeSet TypeName × Index → Std.ExtTreeSet TypeName × Index
  | [], result => result
  | config :: configs, (stale, x) =>
    let (old, next) := retargetIn augmenting targets x config
    retargetAll augmenting targets configs
      ((old ++ targets.toList).foldl (·.insert ·) stale, next)

/-- The configs that list a type. -/
def configsListing (x : Index) (type : TypeName) : List String :=
  (x.listed.toList.filter fun entry => entry.2.contains type).map (·.1)

/-- Point an augmenting type at other targets in all configs that list it; also say which targets
it had and has there. -/
def retarget (x : Index) (augmenting : TypeName) (targets : List TypeName) :
    Std.ExtTreeSet TypeName × Index :=
  retargetAll augmenting (.ofList targets) (x.configsListing augmenting) (∅, x)

/-- Drop what all configs contribute; the index is as before its first build. -/
def clear (_ : Index) : Index := {}

/-- Record that the first build is complete. -/
def markLoaded (x : Index) : Index := { x with isLoaded := true }

/-! ### Questions -/

/-- The applications to a target, in order. -/
def mixinsFor (x : Index) (target : TypeName) : List Application := (x.bucket target).toList

/-- The applications that a config contributes, in order. -/
def configEntries (x : Index) (config : String) : List Application := (x.ofConfig config).toList

/-- Whether a config is loaded. -/
def hasConfig (x : Index) (config : String) : Bool := x.listed.contains config

/-- The loaded configs in order. -/
def configs (x : Index) : List String := x.listed.keys

/-- The targets in order. -/
def targets (x : Index) : List TypeName := x.byTarget.keys

/-- Whether some loaded config lists a type. -/
def isAugmenting (x : Index) (type : TypeName) : Bool := x.listings.contains type

/-- The listed types in order. -/
def augmentingTypes (x : Index) : List TypeName := x.listings.keys

/-- The number of applications. -/
def size (x : Index) : Nat := x.holders.size

/-- Whether there are no applications. -/
def isEmpty (x : Index) : Bool := x.size == 0

/-- The augmenting types of each target and the applications of each config, in order. -/
@[ext] structure Snapshot where
  byTarget : Std.ExtTreeMap TypeName (List TypeName)
  byConfig : Std.ExtTreeMap String (List Application)

/-- Both views of an index. -/
def snapshot (x : Index) : Snapshot where
  byTarget := x.byTarget.map fun _ bucket => bucket.toList.map (·.augmenting)
  byConfig := x.byConfig.map fun _ applications => applications.toList

/-- The numbers of configs, targets, applications and listed types. -/
structure Counts where
  configs : Nat
  targets : Nat
  applications : Nat
  augmentingTypes : Nat
  deriving DecidableEq

/-- The size of each part of an index. -/
def counts (x : Index) : Counts :=
  ⟨x.listed.size, x.byTarget.size, x.holders.size, x.listings.size⟩

/-! ### Several types at once -/

/-- Point a type at the targets that it names if it is augmenting, adding the targets touched to
those collected. -/
def retargetType (targetsOf : TypeName → List TypeName)
    (result : Std.ExtTreeSet TypeName × Index) (type : TypeName) :
    Std.ExtTreeSet TypeName × Index :=
  let (stale, x) := result
  if x.isAugmenting type then
    let (touched, y) := x.retarget type (targetsOf type)
    (touched.toList.foldl (·.insert ·) stale, y)
  else result

/-- Point the augmenting types among some types at the targets that they name, collecting the
targets touched. -/
def retargetTypes (targetsOf : TypeName → List TypeName) (types : List TypeName) (x : Index) :
    Std.ExtTreeSet TypeName × Index :=
  types.foldl (retargetType targetsOf) (∅, x)

end Index

end MixinIndex
