import MixinIndex.Store.Run

/-!
# Work while nothing else happens

A piece of work that is not disturbed does its readings on the workspace as it finds it.  What it
changes is the progress of one registration, so its effect is one function of that progress.

## Main definitions

* `Work.Yields`: the result of undisturbed work, and the workspace that it leaves
* `Workspace.environmentOf`: the mods of a binding, as they read now
* `Workspace.afterBuild`, `Workspace.settled`: progress once a build is complete
* `Workspace.afterEvent`: progress once an event has been applied

## Main statements

* `Work.Yields.bind`: one piece of work after the other
* `Work.yields_build`, `Work.yields_built`: what a build does
* `Work.yields_event`: what an event does around its own work
* `Workspace.perform_of_yields`: the answer to a request
-/

namespace MixinIndex

/-! ### Changing one registration -/

namespace Registry

theorem ext_of_parts {x y : Registry} (registrations : x.registrations = y.registrations)
    (current : x.current = y.current) : x = y := by
  cases x
  cases y
  subst registrations
  subst current
  rfl

end Registry

namespace Workspace

variable (w : Workspace) (g : Generation)

theorem modify_modify (f f' : Progress → Progress) :
    (w.modify g f).modify g f' = w.modify g (f' ∘ f) := by
  have registry : (w.registry.modify g f).modify g f' = w.registry.modify g (f' ∘ f) := by
    refine Registry.ext_of_parts ?_ rfl
    refine List.ext_getElem? fun k => ?_
    simp only [Registry.modify, List.getElem?_modify]
    by_cases same : g = k
    · cases w.registry.registrations[k]? <;> simp [same, Registration.modify]
    · simp [same]
  rw [modify, modify, modify, registry]

/-- Of a changed registration only its progress counts. -/
theorem modify_congr {f f' : Progress → Progress}
    (same : ∀ r, w.registration? g = some r → f r.progress = f' r.progress) :
    w.modify g f = w.modify g f' := by
  have registry : w.registry.modify g f = w.registry.modify g f' := by
    refine Registry.ext_of_parts ?_ rfl
    refine List.ext_getElem? fun k => ?_
    simp only [Registry.modify, List.getElem?_modify]
    by_cases here : g = k
    · subst here
      cases kept : w.registry.registrations[g]? with
      | none => rfl
      | some r => simp [Registration.modify, same r kept]
    · simp [here]
  rw [modify, modify, registry]

theorem modify_id : w.modify g id = w := by
  have registry : w.registry.modify g id = w.registry := by
    refine Registry.ext_of_parts ?_ rfl
    exact List.modify_id g w.registry.registrations
  rw [modify, registry]

end Workspace

/-! ### Undisturbed work -/

namespace Work

variable {α β : Type}

theorem attempt_bind (reader : Reader) (work : Work α) (f : α → Work β) (w : Workspace) :
    (work >>= f).attempt reader w = (work.attempt reader w).bind fun
      | (some result, v) => (f result).attempt reader v
      | (none, v) => some (none, v) := by
  change (work.bind f).attempt reader w = _
  induction work generalizing w with
  | done result => rfl
  | look next ih => exact ih w w
  | change g next ih => exact ih (g w)
  | resolve project next ih => exact ih (w.current? project) w
  | read source path next ih =>
      rw [bind, attempt, attempt]
      cases reader source path w with
      | none => rfl
      | some arrival => exact ih arrival.1 arrival.2
  | wait ready next ih =>
      rw [bind, attempt, attempt]
      by_cases now : ready w = true
      · rw [if_pos now, if_pos now]
        exact ih w
      · rw [if_neg now, if_neg now]
        rfl
  | restart => rfl

/-- Work has a result and leaves a workspace, if nothing else happens meanwhile. -/
def Yields (work : Work α) (w : Workspace) (result : α) (v : Workspace) : Prop :=
  work.attempt Workspace.readResource w = some (some result, v)

namespace Yields

variable {w v u : Workspace} {a : α} {b : β}

theorem pure (a : α) (w : Workspace) : (Pure.pure a : Work α).Yields w a w := rfl

theorem bind {work : Work α} {f : α → Work β} (first : work.Yields w a v)
    (second : (f a).Yields v b u) : (work >>= f).Yields w b u := by
  rw [Yields, attempt_bind, first]
  exact second

theorem workspace (w : Workspace) : Work.workspace.Yields w w w := rfl

theorem currentOf (w : Workspace) (project : String) :
    (Work.currentOf project).Yields w (w.current? project) w := rfl

theorem resource (w : Workspace) (source path : String) :
    (Work.resource source path).Yields w (w.read source path) w := rfl

theorem modify (w : Workspace) (g : Generation) (f : Workspace → Progress → Progress) :
    (Work.modify g f).Yields w () (w.modify g (f w)) := rfl

theorem await {ready : Workspace → Bool} (now : ready w = true) :
    (Work.await ready).Yields w () w := by
  rw [Yields, Work.await, attempt, if_pos now]
  rfl

end Yields

end Work

/-! ### Reading configs -/

namespace Workspace

variable (w : Workspace)

/-- Read configs of a source into an index. -/
def loadConfigs (declarations source : String) (configs : List String) (x : Index) : Index :=
  configs.foldl (fun x config => x.tryLoad w.config.annotations (w.catalogue declarations) config
    (w.read source config)) x

/-- Read the configs of mods into an index. -/
def loadMods (declarations : String) (mods : List LoadedMod) (x : Index) : Index :=
  mods.foldl (fun x mod =>
    w.loadConfigs declarations mod.source mod.metadata.configs.toList x) x

/-- The mod of a source, as it reads now. -/
def modAt? (source : String) : Option LoadedMod :=
  LoadedMod.ofResource? source (w.read source w.config.metadataFile)

/-- The mods of a binding, as they read now. -/
def environmentOf (b : Binding) : Environment where
  project := w.modAt? b.source
  classpath := b.classpath.filterMap w.modAt?

/-- Progress after a build. -/
def afterBuild (b : Binding) (p : Progress) : Progress :=
  ((p.beginBuild).modifyIndex (w.loadMods b.declarations (w.environmentOf b).mods)).endBuild
    (w.environmentOf b)

/-- Progress once a build is complete, by a build if there is none yet. -/
def settled (b : Binding) (p : Progress) : Progress :=
  if p.isKept then p else w.afterBuild b p

/-- An index that is kept is not built again. -/
theorem modify_settled (w : Workspace) {g : Generation} {r : Registration}
    (known : w.registration? g = some r) (kept : r.progress.isKept = true) :
    w.modify g (w.settled r.binding) = w := by
  refine (w.modify_congr g fun s knownS => ?_).trans (w.modify_id g)
  obtain rfl := Option.some.inj (known.symm.trans knownS)
  exact if_pos kept

end Workspace

namespace Work

variable {w : Workspace} {g : Generation}

theorem yields_loadConfigs (w : Workspace) (g : Generation) (declarations source : String)
    (configs : List String) :
    (loadConfigs g declarations source configs).Yields w ()
      (w.modify g (Progress.modifyIndex (w.loadConfigs declarations source configs))) := by
  induction configs generalizing w with
  | nil =>
      rw [show w.modify g (Progress.modifyIndex (w.loadConfigs declarations source [])) = w from
        w.modify_id g]
      exact .pure () w
  | cons config configs ih =>
      refine .bind (.resource w source config) (.bind (.modify w g _) ?_)
      have rest := ih (w.modify g (Progress.modifyIndex (·.tryLoad w.config.annotations
        (w.catalogue declarations) config (w.read source config))))
      rwa [Workspace.modify_modify] at rest

theorem yields_loadMods (w : Workspace) (g : Generation) (declarations : String)
    (mods : List LoadedMod) :
    (loadMods g declarations mods).Yields w ()
      (w.modify g (Progress.modifyIndex (w.loadMods declarations mods))) := by
  induction mods generalizing w with
  | nil =>
      rw [show w.modify g (Progress.modifyIndex (w.loadMods declarations [])) = w from
        w.modify_id g]
      exact .pure () w
  | cons mod mods ih =>
      refine .bind (yields_loadConfigs w g _ _ _) ?_
      have rest := ih (w.modify g (Progress.modifyIndex
        (w.loadConfigs declarations mod.source mod.metadata.configs.toList)))
      rwa [Workspace.modify_modify] at rest

/-! ### Builds -/

theorem yields_discoverMod (w : Workspace) (source : String) :
    (discoverMod source).Yields w (w.modAt? source) w :=
  .bind (.workspace w) (.bind (.resource w source _) (.pure _ w))

theorem yields_discoverMods (w : Workspace) (sources : List String) :
    (discoverMods sources).Yields w (sources.filterMap w.modAt?) w := by
  induction sources with
  | nil => exact .pure [] w
  | cons source sources ih =>
      have found : (w.modAt? source).toList ++ sources.filterMap w.modAt? =
          (source :: sources).filterMap w.modAt? := by
        rw [List.filterMap_cons]
        cases w.modAt? source <;> rfl
      rw [← found]
      exact .bind (yields_discoverMod w source) (.bind ih (.pure _ w))

theorem yields_discover (w : Workspace) (b : Binding) :
    (discover b).Yields w (w.environmentOf b) w :=
  .bind (yields_discoverMod w b.source) (.bind (yields_discoverMods w b.classpath) (.pure _ w))

theorem yields_build (w : Workspace) (g : Generation) (b : Binding) :
    (build g b).Yields w () (w.modify g (w.afterBuild b)) := by
  refine .bind (.modify w g _) (.bind (yields_discover _ b) (.bind (yields_loadMods _ g _ _) ?_))
  have last := Yields.modify ((w.modify g Progress.beginBuild).modify g (Progress.modifyIndex
    (w.loadMods b.declarations (w.environmentOf b).mods))) g
    fun _ => Progress.endBuild (w.environmentOf b)
  rw [Workspace.modify_modify] at last ⊢
  rw [Workspace.modify_modify] at last
  exact last

/-- A registration in force is built once it is asked for. -/
theorem yields_built {r : Registration} (kept : w.registration? g = some r)
    (current : w.isCurrent g = true) (idle : r.progress.isKept ∨ r.progress.phase ≠ .loading) :
    (built g).Yields w (some (r.modify (w.settled r.binding)))
      (w.modify g (w.settled r.binding)) := by
  have ensured : (ensureBuilt g).Yields w () (w.modify g (w.settled r.binding)) := by
    refine .bind (.workspace w) ?_
    rw [kept]
    by_cases already : r.progress.isKept = true
    · have same : w.modify g (w.settled r.binding) = w := w.modify_settled kept already
      rw [same]
      simp only [already, ↓reduceIte]
      exact .pure () w
    · have same : w.modify g (w.settled r.binding) = w.modify g (w.afterBuild r.binding) := by
        refine w.modify_congr g fun s keptHere => ?_
        rw [kept, Option.some.injEq] at keptHere
        subst keptHere
        rw [Workspace.settled, if_neg already]
      rw [same]
      simp only [already, Bool.false_eq_true, ↓reduceIte, idle.resolve_left already]
      exact yields_build w g r.binding
  refine .bind ensured (.bind (.workspace _) ?_)
  rw [Workspace.isCurrent_modify, if_pos current, Workspace.registration?_modify_self, kept]
  exact .pure _ _

theorem yields_forProject {α : Type} {project : String} {a : Except Failure α} {v : Workspace}
    {work : Generation → Work (Except Failure α)} (current : w.current? project = some g)
    (h : (work g).Yields w a v) : (forProject project work).Yields w a v := by
  refine .bind (.currentOf w project) ?_
  rw [current]
  exact h

theorem yields_index {project : String} {r : Registration}
    (current : w.current? project = some g) (kept : w.registration? g = some r)
    (inForce : w.isCurrent g = true) (idle : r.progress.isKept ∨ r.progress.phase ≠ .loading) :
    (index project).Yields w (.ok (w.settled r.binding r.progress).index)
      (w.modify g (w.settled r.binding)) :=
  yields_forProject current (.bind (yields_built kept inForce idle) (.pure _ _))

theorem yields_augmentations {project : String} {r : Registration}
    (current : w.current? project = some g) (kept : w.registration? g = some r)
    (inForce : w.isCurrent g = true) (idle : r.progress.isKept ∨ r.progress.phase ≠ .loading)
    (target : TypeName) :
    (augmentations project target).Yields w
      (augmentationsOf w.config.annotations (w.catalogue r.binding.declarations)
        (w.settled r.binding r.progress).index target)
      (w.modify g (w.settled r.binding)) := by
  have built := yields_built kept inForce idle
  refine yields_forProject current (.bind (a := .ok _) (.bind built ?_) (.pure _ _))
  exact .bind (.bind (.workspace _) (.pure _ _)) (.pure _ _)

/-! ### Events -/

/-- An event settles the progress of its registration before its own work is done. -/
theorem yields_event {α : Type} (project : String) (work : Registration → Work α)
    {r : Registration} {a : α} {f : Progress → Progress} (kept : w.registration? g = some r)
    (inForce : w.isCurrent g = true) (idle : r.progress.isKept ∨ r.progress.phase ≠ .loading)
    (unlocked : r.progress.isLocked = false)
    (h : (work (r.modify (w.settled r.binding ∘ Progress.lock))).Yields
      (w.modify g (w.settled r.binding ∘ Progress.lock)) a
      (w.modify g (f ∘ w.settled r.binding ∘ Progress.lock))) :
    (event g project work).Yields w (.ok a)
      (w.modify g (Progress.unlock ∘ f ∘ w.settled r.binding ∘ Progress.lock)) := by
  have free : (!w.isLocked g) = true := by
    rw [Workspace.isLocked, kept, Option.any_some, unlocked]
    rfl
  have locked : (w.modify g Progress.lock).registration? g = some (r.modify Progress.lock) := by
    rw [Workspace.registration?_modify_self, kept]
    rfl
  have settled := yields_built locked ((w.isCurrent_modify g g _).trans inForce) idle
  rw [Workspace.modify_modify] at settled
  refine .bind (.await free) (.bind (.modify w g _) ?_)
  refine .bind (.bind settled (.bind h (.pure _ _))) ?_
  have last := Yields.modify (w.modify g (f ∘ w.settled r.binding ∘ Progress.lock)) g
    fun _ => Progress.unlock
  rw [Workspace.modify_modify] at last
  exact .bind last (.pure _ _)

end Work

/-! ### Requests -/

namespace Workspace

/-- A request whose work has a result answers with it. -/
theorem perform_of_yields {operation : Operation} {w v : Workspace} {answer : Answer}
    (h : operation.work.Yields w answer v) :
    w.perform readResource operation = some (answer, v) := by
  rw [perform, Work.complete, h]
  rfl

/-- A request has one outcome. -/
theorem eq_of_perform {operation : Operation} {w v v' : Workspace} {answer answer' : Answer}
    (h : w.perform readResource operation = some (answer, v))
    (h' : w.perform readResource operation = some (answer', v')) : v = v' := by
  rw [h, Option.some.injEq, Prod.mk.injEq] at h'
  exact h'.2

end Workspace

end MixinIndex
