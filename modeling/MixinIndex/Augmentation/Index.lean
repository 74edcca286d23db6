import MixinIndex.Augmentation.Bucket
import MixinIndex.Augmentation.Extraction
import MixinIndex.Resolution

/-!
# Augmentations of a target

All that a list of augmenting types does to one target type.

## Main definitions

* `Augmentations.resolveEntry`: resolve one entry and record what it hits
* `Augmentations.addMixin`: resolve all entries of an augmenting type that names the target
* `Augmentations.ofTarget`: the augmentations of a target by a list of augmenting types
-/

namespace MixinIndex

open Augmentation

namespace Augmentations

/-- Record a handler on one member. -/
def recordEntry (entry : Entry) (a : Augmentations) (m : Member) : Augmentations :=
  a.record m.key entry.kind entry.handler

/-- Resolve one entry: an overwrite by name and parameters, another name among the fields, a
specifier among the methods. -/
def resolveEntry (target : Declaration) (a : Augmentations) (entry : Entry) : Augmentations :=
  match entry.target with
  | .name name =>
    if entry.kind = .overwrite then
      match target.findExact? name entry.handler.parameters with
      | some m => recordEntry entry a m
      | none => a.report (target.notFound (name ++ entry.handler.descriptor.text))
    else
      match target.field? name with
      | some m => recordEntry entry a m
      | none => a.report (target.notFound name)
  | .specifier spec =>
    let resolution := target.resolveMethod spec
    (resolution.members.foldl (recordEntry entry) a).reportAll resolution.diagnostics

/-- Add what one augmenting type does to the target, which is nothing if it does not name it. -/
def addMixin (target : Declaration) (names : AnnotationNames) (a : Augmentations)
    (mixin : Declaration) : Augmentations :=
  if (mixin.targetSet names).contains target.name then
    let extraction := mixin.extract names
    extraction.entries.foldl (resolveEntry target) (a.reportAll extraction.diagnostics)
  else a

/-- What a list of augmenting types does to the target. -/
def ofTarget (names : AnnotationNames) (target : Declaration) (mixins : List Declaration) :
    Augmentations := mixins.foldl (addMixin target names) {}

end Augmentations

end MixinIndex
