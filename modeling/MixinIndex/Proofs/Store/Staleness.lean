import MixinIndex.Proofs.Contribution.Reflecting
import MixinIndex.Proofs.Store.Isolation
import MixinIndex.Proofs.Store.Standing

/-!
# What changed types leave stale

An event that lists the types whose declarations have changed answers with the targets that are
stale: those that the types had, and those that they name now.  No other target is concerned, so
long as its own declaration is not one of those that have changed.

## Main definitions

* `Workspace.Redeclares`: only some types change their declarations
* `Workspace.Answers`: the answer to a request

## Main statements

* `Index.Reflects.augmentationsOf_retargetTypes`: a target that is not touched has the same
  augmentations as before
* `Session.answers_of_not_stale`: what is not stale has the same answer before the declarations
  change and after the event

## Design notes

All that has to be known of the index is that its applications are those of listed types.  A type
that no config lists is not pointed elsewhere when its declaration changes, so an application of
such a type would be missed.
-/

namespace MixinIndex

/-- A target that is not touched has the same augmentations, if the declarations of all types that
were to be pointed elsewhere are the only ones that have changed. -/
theorem Index.Reflects.augmentationsOf_retargetTypes {x : Index} {names : AnnotationNames}
    {c d : Catalogue} {apart : TypeName → Prop} (h : x.Reflects (d.targetsOf names) apart)
    {types : List TypeName} (others : ∀ type, type ∉ types → d.find? type = c.find? type)
    {target : TypeName} (unchanged : target ∉ types)
    (untouched : target ∉ (x.retargetTypes (d.targetsOf names) types).1) :
    augmentationsOf names d (x.retargetTypes (d.targetsOf names) types).2 target =
      augmentationsOf names c x target := by
  obtain ⟨same, unlisted⟩ := h.mixinsFor_retargetTypes untouched
  have mixins : (x.mixinsFor target).filterMap (d.find? ·.augmenting) =
      (x.mixinsFor target).filterMap (c.find? ·.augmenting) := by
    refine List.filterMap_congr fun a shown => ?_
    exact others a.augmenting (unlisted a shown)
  rw [augmentationsOf, augmentationsOf, same, mixins, others target unchanged]

namespace Workspace

/-- Only some types change their declarations.  Registrations remain as they are; what can be read
from sources may change too. -/
structure Redeclares (w v : Workspace) (declarations : String) (types : List TypeName) :
    Prop where
  config : v.config = w.config
  registry : v.registry = w.registry
  declarations : ∀ type, type ∉ types →
    (v.catalogue declarations).find? type = (w.catalogue declarations).find? type

/-- A declaration that is added, or put in place of another, is that of its own type only. -/
theorem redeclares_insert (w : Workspace) (declarations : String) (d : Declaration) :
    w.Redeclares (w.modifyCatalogue declarations (·.insert d)) declarations [d.name] where
  config := rfl
  registry := rfl
  declarations := by
    intro type other
    have inserted : (w.modifyCatalogue declarations (·.insert d)).catalogue declarations =
        (w.catalogue declarations).insert d := by
      rw [modifyCatalogue, catalogue, Std.ExtTreeMap.getElem?_insert_self]
      rfl
    rw [inserted, Catalogue.find?_insert, if_neg]
    exact fun same => other (List.mem_singleton.2 same.symm)

/-- The answer to a request, if nothing else happens meanwhile. -/
def Answers (w : Workspace) (operation : Operation) (answer : Answer) : Prop :=
  ∃ v, w.perform readResource operation = some (answer, v)

/-- Whatever the declarations are now, all applications in an index are those of listed types. -/
theorem Sound.reflects {w : Workspace} {E : Evidence} (h : w.Sound E) {g : Generation}
    {r : Registration} (known : w.registration? g = some r)
    (targetsOf : TypeName → List TypeName) : r.progress.index.Reflects targetsOf fun _ => True := by
  obtain ⟨m, represents, contributes⟩ := (h.stems known).index
  refine ⟨m, represents, fun config c kept => ⟨fun a member => ?_, fun a _ apart => ?_⟩⟩
  · obtain ⟨source, _, text, file, _, _, listed, applied⟩ := contributes config c kept
    exact (listed a.augmenting).2 (applied a member).1
  · exact absurd trivial apart

end Workspace

namespace Tenure

/-- A registration in force for which nobody is building and no event is being applied is at
rest. -/
theorem standing_of_current {w : Workspace} {project : String} {g : Generation} {r : Registration}
    (inForce : w.current? project = some g) (known : w.registration? g = some r)
    (idle : r.progress.phase ≠ .loading) (unlocked : r.progress.isLocked = false) :
    (⟨project, g, r.binding, fun _ => True⟩ : Tenure).Standing w r.progress :=
  standing_of_isIdle inForce known unlocked (Or.inr idle)

namespace Standing

variable {t : Tenure} {w v : Workspace} {p : Progress} {types : List TypeName}

theorem redeclared (h : t.Standing w p)
    (edited : w.Redeclares v t.binding.declarations types) : t.Standing v p where
  current := by
    rw [Workspace.current?, edited.registry]
    exact h.current
  registration := by
    rw [Workspace.registration?, edited.registry]
    exact h.registration
  isUnlocked := h.isUnlocked
  isIdle := h.isIdle

/-- The augmentations of a target of a registration whose index is kept. -/
theorem augmentations_of_kept (h : t.Standing w p) (kept : p.isKept = true) (target : TypeName) :
    w.Answers (.augmentations t.project target) (.ofResult .augmentations
      (augmentationsOf w.config.annotations (w.catalogue t.binding.declarations) p.index
        target)) := by
  have settled : w.settled t.binding p = p := if_pos kept
  have answer := h.augmentations target
  rw [settled] at answer
  exact ⟨_, answer⟩

/-- After an event of changed types, what was not touched has the same augmentations as before the
declarations changed. -/
theorem answers_retargeted (h : t.Standing w p) (kept : p.isKept = true)
    (listed : p.index.Reflects (v.targetsOf t.binding.declarations) fun _ => True)
    (edited : w.Redeclares v t.binding.declarations types) {target : TypeName}
    (untouched : target ∉ (p.index.retargetTypes (v.targetsOf t.binding.declarations) types).1)
    (unchanged : target ∉ types) :
    let result := augmentationsOf w.config.annotations (w.catalogue t.binding.declarations) p.index
      target
    w.Answers (.augmentations t.project target) (.ofResult .augmentations result) ∧
      (t.afterEvent v (v.retargetTypes t.binding types)).Answers (.augmentations t.project target)
        (.ofResult .augmentations result) := by
  intro result
  have standing := h.redeclared edited
  -- the index is there, so neither the event nor the question builds it
  have settled : v.settled t.binding p = p := if_pos kept
  have keptAfter :
      (v.retargetTypes t.binding types (v.settled t.binding p).lock).isKept = true := by
    rw [settled]
    exact kept
  have after := (standing.afterEvent keptAfter).augmentations_of_kept keptAfter target
  have index : (t.progressAfter v (v.retargetTypes t.binding types) p).index =
      (p.index.retargetTypes (v.targetsOf t.binding.declarations) types).2 := by
    rw [progressAfter, settled]
    rfl
  have same := listed.augmentationsOf_retargetTypes edited.declarations unchanged untouched
  refine ⟨h.augmentations_of_kept kept target, ?_⟩
  rw [index] at after
  have config : v.config.annotations = w.config.annotations :=
    congrArg Config.annotations edited.config
  have result_eq : result = augmentationsOf v.config.annotations
      (v.catalogue t.binding.declarations)
      (p.index.retargetTypes (v.targetsOf t.binding.declarations) types).2 target := by
    rw [Workspace.targetsOf, same, config]
  rw [result_eq]
  exact after

end Standing

end Tenure

/-! ### In every session -/

/-- What is stale is complete: once a registration is built, and whichever of its declarations
change, an event that lists the changed types answers with a set of targets such that all others,
the changed types apart, have the same answer before the change and after the event. -/
theorem Session.answers_of_not_stale (w₀ : Workspace) (moves : List Move) {project : String}
    {g : Generation} {r : Registration} {v : Workspace} {types : List TypeName}
    (inForce : ((start w₀).run moves).workspace.current? project = some g)
    (known : ((start w₀).run moves).workspace.registration? g = some r)
    (built : r.progress.phase = .loaded) (unlocked : r.progress.isLocked = false)
    (edited : ((start w₀).run moves).workspace.Redeclares v r.binding.declarations types) :
    ∃ stale u,
      v.perform Workspace.readResource (.typesChanged project types) = some (.targets stale, u) ∧
        ∀ target, target ∉ stale → target ∉ types → ∃ answer,
          ((∃ a, answer = .augmentations a) ∨ answer = .failed (.typeNotFound target)) ∧
            ((start w₀).run moves).workspace.Answers (.augmentations project target) answer ∧
              u.Answers (.augmentations project target) answer := by
  set w := ((start w₀).run moves).workspace
  have valid : ((start w₀).run moves).Valid ((start w₀).run moves).evidence :=
    (valid_start w₀ _).run moves (.refl _)
  have standing := Tenure.standing_of_current inForce known (by simp [built]) unlocked
  have kept : r.progress.isKept = true := (valid.sound.kept known standing.isCurrent).2 built
  have listed := valid.sound.reflects known (v.targetsOf r.binding.declarations)
  have event := (standing.redeclared edited).touched types
  have settled : v.settled r.binding r.progress = r.progress := if_pos kept
  rw [settled] at event
  refine ⟨_, _, event, fun target untouched unchanged => ?_⟩
  obtain ⟨before, after⟩ := standing.answers_retargeted kept listed edited untouched unchanged
  refine ⟨_, ?_, before, after⟩
  rw [augmentationsOf]
  cases w.catalogue r.binding.declarations |>.find? target with
  | none => exact Or.inr rfl
  | some declaration => exact Or.inl ⟨_, rfl⟩

/-- A type that is mixed into one target. -/
def Declaration.mixedInto (target name : String) : Declaration where
  name := ⟨name⟩
  annotations := [{
    typeName := "Mixin"
    values := .ofList [("targets", Annotation.Value.string target)] }]

/-- A project with one config that lists one type. -/
def Workspace.listingOne : Workspace where
  sources := .ofList [("s", Source.memory "s" (.ofList
    [("fabric.mod.json", "\x7b\"schemaVersion\": 1, \"id\": \"m\", \"mixins\": [\"c\"]\x7d"),
      ("c", "\x7b\"package\": \"q\", \"mixins\": [\"A\"]\x7d")]))]
  catalogues := .ofList [("d", Catalogue.empty.insertAll
    [.mixedInto "x.Door" "q.A", { name := ⟨"x.Lamp"⟩ }])]

/-- The index of a project is asked for until it is there. -/
def Session.askingOnce : List Move :=
  [.call (.register "p" ⟨"s", [], "d"⟩), .call (.index "p"), .resume 1, .resume 1, .resume 1]

/-- The type that the config lists is mixed into another target. -/
theorem Session.answers_of_not_stale_listingOne :
    ∃ (v : Workspace) (stale : Std.ExtTreeSet TypeName) (u : Workspace) (answer : Answer),
      v.perform Workspace.readResource (.typesChanged "p" [⟨"q.A"⟩]) = some (.targets stale, u) ∧
        stale.toList = [⟨"x.Door"⟩, ⟨"x.Roof"⟩] ∧
          ((start .listingOne).run askingOnce).workspace.Answers
            (.augmentations "p" ⟨"x.Lamp"⟩) answer ∧
          u.Answers (.augmentations "p" ⟨"x.Lamp"⟩) answer := by
  have inForce : ((start .listingOne).run askingOnce).workspace.current? "p" = some 0 := by
    decide +kernel
  have rests : (((start .listingOne).run askingOnce).workspace.registration? 0).any (fun r =>
      r.progress.phase = .loaded ∧ r.progress.isLocked = false ∧ r.binding.declarations = "d") =
        true := by
    decide +kernel
  obtain ⟨r, known, holds⟩ := (Option.any_eq_true _ _).1 rests
  obtain ⟨built, unlocked, declarations⟩ := of_decide_eq_true holds
  have edited := ((start .listingOne).run askingOnce).workspace.redeclares_insert
    r.binding.declarations (.mixedInto "x.Roof" "q.A")
  obtain ⟨stale, u, event, same⟩ :=
    answers_of_not_stale .listingOne askingOnce inForce known built unlocked edited
  have touched : ((((start .listingOne).run askingOnce).workspace.modifyCatalogue "d"
      (·.insert (.mixedInto "x.Roof" "q.A"))).perform Workspace.readResource
        (.typesChanged "p" [⟨"q.A"⟩])).any (fun result => match result.1 with
          | .targets stale => stale.toList = [⟨"x.Door"⟩, ⟨"x.Roof"⟩]
          | _ => false) = true := by
    decide +kernel
  rw [← declarations] at touched
  have stale_eq : stale.toList = [⟨"x.Door"⟩, ⟨"x.Roof"⟩] := by
    change ((Workspace.modifyCatalogue _ _ _).perform _ (.typesChanged "p" [⟨"q.A"⟩])) = _ at event
    rw [event] at touched
    exact of_decide_eq_true touched
  have untouched : (⟨"x.Lamp"⟩ : TypeName) ∉ stale := by
    rw [← Std.ExtTreeSet.mem_toList, stale_eq]
    decide
  obtain ⟨answer, -, before, after⟩ := same ⟨"x.Lamp"⟩ untouched (by decide)
  exact ⟨_, stale, u, answer, event, stale_eq, before, after⟩

end MixinIndex
