import MixinIndex.Proofs.Store.Realms
import MixinIndex.Proofs.Store.Requests

/-!
# Mirrored work

What is done for a project in two workspaces that show the same of it is the same, step by step:
the same resources are read, the same changes are made to registrations that correspond to each
other, and the answers say the same about the project.

## Main definitions

* `Work.Alike`: work that does the same in workspaces that show the same
* `Work.Agrees`: work that ends with the same result, for the registrations that it began with
* `Answer.about`: what an answer says about a project

## Main statements

* `Work.Alike.bind`: one piece of work after the other
* `Work.Alike.advance`: what alike work does at a stretch
* `Work.alike_built`, `Work.alike_event`: an index, and an event
* `Operation.alike`: requests about the project of a realm are alike

## Design notes

Work keeps hold of one registration, so its two copies need not know which other registrations
correspond to each other.  That is why `Alike` has only a pair of numbers for its world.
-/

namespace MixinIndex

/-! ### Alike work -/

namespace Work

variable {α β : Type} {m : Realm}

/-- Two pieces of work do the same, each for its registration, in workspaces that show the same of
a realm.  They look up its project only, read its sources only, and end as is required. -/
inductive Alike (m : Realm) (Q : Pairing → α → α → Prop) : Work α → Work α → Pairing → Prop
  | done {bound : Pairing} {a a' : α} (same : Q bound a a') : Alike m Q (.done a) (.done a') bound
  | look {bound : Pairing} {next next' : Workspace → Work α}
      (alike : ∀ {w v : Workspace}, w.MirrorsAt m bound v → Alike m Q (next w) (next' v) bound) :
      Alike m Q (.look next) (.look next') bound
  | change {g k : Generation} {f f' : Workspace → Workspace} {next next' : Work α}
      (modifies : ∀ {w v : Workspace}, w.MirrorsAt m (some (g, k)) v →
        ∃ h, f w = w.modify g h ∧ f' v = v.modify k h)
      (alike : Alike m Q next next' (some (g, k))) :
      Alike m Q (.change f next) (.change f' next') (some (g, k))
  | resolve {bound : Pairing} {next next' : Option Generation → Work α}
      (alike : ∀ found : Pairing,
        Alike m Q (next (found.map (·.1))) (next' (found.map (·.2))) found) :
      Alike m Q (.resolve m.project next) (.resolve m.project next') bound
  | read {bound : Pairing} {source path : String} {next next' : Except Failure String → Work α}
      (own : m.sources source = true)
      (alike : ∀ resource, Alike m Q (next resource) (next' resource) bound) :
      Alike m Q (.read source path next) (.read source path next') bound
  | wait {bound : Pairing} {ready ready' : Workspace → Bool} {next next' : Work α}
      (same : ∀ {w v : Workspace}, w.MirrorsAt m bound v → ready' v = ready w)
      (alike : Alike m Q next next' bound) : Alike m Q (.wait ready next) (.wait ready' next') bound
  | restart {bound : Pairing} : Alike m Q .restart .restart bound

theorem Alike.bind {Q : Pairing → β → β → Prop} {f f' : α → Work β} {work work' : Work α}
    {bound : Pairing}
    (h : Alike m (fun bound a a' => Alike m Q (f a) (f' a') bound) work work' bound) :
    Alike m Q (work >>= f) (work' >>= f') bound := by
  change Alike m Q (work.bind f) (work'.bind f') bound
  induction h with
  | done same => exact same
  | look alike ih => exact .look ih
  | change modifies alike ih => exact .change modifies ih
  | resolve alike ih => exact .resolve ih
  | read own alike ih => exact .read own ih
  | wait same alike ih => exact .wait same ih
  | restart => exact .restart

theorem Alike.mono {Q Q' : Pairing → α → α → Prop} {work work' : Work α} {bound : Pairing}
    (h : Alike m Q work work' bound)
    (weaker : ∀ bound a a', Q bound a a' → Q' bound a a') : Alike m Q' work work' bound := by
  induction h with
  | done same => exact .done (weaker _ _ _ same)
  | look alike ih => exact .look ih
  | change modifies alike ih => exact .change modifies ih
  | resolve alike ih => exact .resolve ih
  | read own alike ih => exact .read own ih
  | wait same alike ih => exact .wait same ih
  | restart => exact .restart

/-- Alike work that has stopped changes nothing. -/
theorem Alike.still {Q : Pairing → α → α → Prop} {work work' : Work α} {bound : Pairing}
    (h : Alike m Q work work' bound) (w v : Workspace) :
    ∃ f, w = w.modifyAt (bound.map (·.1)) f ∧ v = v.modifyAt (bound.map (·.2)) f ∧
      Alike m Q work work' bound :=
  ⟨id, (w.modifyAt_id _).symm, (v.modifyAt_id _).symm, h⟩

/-- At a stretch, alike work makes one change, of the registrations that it is for, and what remains
is alike. -/
theorem Alike.advance {Q : Pairing → α → α → Prop} {work work' : Work α} {bound : Pairing}
    (h : Alike m Q work work' bound) {w v : Workspace} (mirrors : w.MirrorsAt m bound v) :
    ∃ f, (work.advance w).2 = w.modifyAt (bound.map (·.1)) f ∧
      (work'.advance v).2 = v.modifyAt (bound.map (·.2)) f ∧
      Alike m Q (work.advance w).1 (work'.advance v).1 bound := by
  induction h generalizing w v with
  | look alike ih => exact ih mirrors mirrors
  | @change g k f f' next next' modifies alike ih =>
      obtain ⟨first, changed, changed'⟩ := modifies mirrors
      obtain ⟨rest, rests, rests', alike'⟩ := ih (mirrors.modify first)
      refine ⟨rest ∘ first, ?_, ?_, ?_⟩
      · show (next.advance (f w)).2 = w.modify g (rest ∘ first)
        rw [changed, rests, ← w.modify_modify]
        rfl
      · show (next'.advance (f' v)).2 = v.modify k (rest ∘ first)
        rw [changed', rests', ← v.modify_modify]
        rfl
      · show Alike m Q (next.advance (f w)).1 (next'.advance (f' v)).1 (some (g, k))
        rw [changed, changed']
        exact alike'
  | done same => exact (Alike.done same).still w v
  | resolve alike => exact (Alike.resolve alike).still w v
  | read own alike => exact (Alike.read own alike).still w v
  | wait same alike => exact (Alike.wait same alike).still w v
  | restart => exact Alike.restart.still w v

/-! ### Single steps -/

variable {g k : Generation} {bound : Pairing}

theorem alike_workspace {Q : Pairing → Workspace → Workspace → Prop}
    (post : ∀ {w v : Workspace}, w.MirrorsAt m bound v → Q bound w v) :
    Alike m Q workspace workspace bound :=
  .look fun mirrors => .done (post mirrors)

theorem alike_modify {Q : Pairing → Unit → Unit → Prop} {f f' : Workspace → Progress → Progress}
    (same : ∀ {w v : Workspace}, w.MirrorsAt m (some (g, k)) v → f' v = f w)
    (post : Q (some (g, k)) () ()) : Alike m Q (modify g f) (modify k f') (some (g, k)) :=
  .change (fun {w v} mirrors => ⟨f w, rfl, congrArg (v.modify k) (same mirrors)⟩) (.done post)

theorem alike_resource {Q : Pairing → Except Failure String → Except Failure String → Prop}
    {source : String} (own : m.sources source = true) (path : String)
    (post : ∀ resource, Q bound resource resource) :
    Alike m Q (resource source path) (resource source path) bound :=
  .read own fun resource => .done (post resource)

/-! ### Builds -/

theorem alike_loadConfigs {Q : Pairing → Unit → Unit → Prop} {declarations source : String}
    (declared : m.declarations declarations = true) (own : m.sources source = true)
    (configs : List String) (post : Q (some (g, k)) () ()) :
    Alike m Q (loadConfigs g declarations source configs)
      (loadConfigs k declarations source configs) (some (g, k)) := by
  induction configs with
  | nil => exact .done post
  | cons config configs ih =>
      refine .bind (alike_resource own config fun resource => ?_)
      refine .bind (alike_modify (fun mirrors => ?_) ih)
      rw [mirrors.config, mirrors.catalogue declared]

theorem alike_loadMods {Q : Pairing → Unit → Unit → Prop} {declarations : String}
    (declared : m.declarations declarations = true) {mods : List LoadedMod}
    (own : ∀ mod ∈ mods, m.sources mod.source = true) (post : Q (some (g, k)) () ()) :
    Alike m Q (loadMods g declarations mods) (loadMods k declarations mods) (some (g, k)) := by
  induction mods with
  | nil => exact .done post
  | cons mod mods ih =>
      refine .bind (alike_loadConfigs declared (own mod List.mem_cons_self) _ ?_)
      exact ih fun other member => own other (List.mem_cons_of_mem _ member)

theorem alike_discoverMod {Q : Pairing → Option LoadedMod → Option LoadedMod → Prop}
    {source : String} (own : m.sources source = true)
    (post : ∀ found : Option LoadedMod, (∀ mod ∈ found, m.sources mod.source = true) →
      Q bound found found) :
    Alike m Q (discoverMod source) (discoverMod source) bound := by
  refine .bind (alike_workspace fun mirrors => ?_)
  rw [mirrors.config]
  refine .bind (alike_resource own _ fun resource => .done (post _ fun mod found => ?_))
  rw [source_of_ofResource? found]
  exact own

theorem alike_discoverMods {Q : Pairing → List LoadedMod → List LoadedMod → Prop}
    {sources : List String} (own : ∀ source ∈ sources, m.sources source = true)
    (post : ∀ mods : List LoadedMod, (∀ mod ∈ mods, m.sources mod.source = true) →
      Q bound mods mods) :
    Alike m Q (discoverMods sources) (discoverMods sources) bound := by
  induction sources generalizing Q with
  | nil => exact .done (post [] fun _ impossible => absurd impossible List.not_mem_nil)
  | cons source sources ih =>
      refine .bind (alike_discoverMod (own source List.mem_cons_self) fun found isOwn => ?_)
      refine .bind (ih (fun other member => own other (List.mem_cons_of_mem _ member))
        fun mods areOwn => .done (post _ fun mod member => ?_))
      rcases List.mem_append.1 member with first | later
      · exact isOwn mod (Option.mem_toList.1 first)
      · exact areOwn mod later

/-- The mods that are discovered are those of sources of the binding. -/
theorem alike_discover {Q : Pairing → Environment → Environment → Prop} {b : Binding}
    (within : b.Within m)
    (post : ∀ e : Environment, (∀ mod ∈ e.mods, m.sources mod.source = true) → Q bound e e) :
    Alike m Q (discover b) (discover b) bound := by
  refine .bind (alike_discoverMod (within.sources _ List.mem_cons_self) fun project isOwn => ?_)
  refine .bind (alike_discoverMods
    (fun source member => within.sources source (List.mem_cons_of_mem _ member))
    fun classpath areOwn => .done (post _ fun mod member => ?_))
  rcases List.mem_append.1 member with first | later
  · exact isOwn mod (Option.mem_toList.1 first)
  · exact areOwn mod later

theorem alike_build {Q : Pairing → Unit → Unit → Prop} {b : Binding} (within : b.Within m)
    (post : Q (some (g, k)) () ()) :
    Alike m Q (build g b) (build k b) (some (g, k)) := by
  refine .bind (alike_modify (fun _ => rfl) (.bind (alike_discover within fun e own => ?_)))
  exact .bind (alike_loadMods within.declarations own (alike_modify (fun _ => rfl) post))

theorem alike_ensureBuilt {Q : Pairing → Unit → Unit → Prop} (post : Q (some (g, k)) () ()) :
    Alike m Q (ensureBuilt g) (ensureBuilt k) (some (g, k)) := by
  refine .bind (alike_workspace fun mirrors => ?_)
  obtain ⟨r, known, known', -, within⟩ := mirrors.registration
  rw [known, known']
  by_cases kept : r.progress.isKept = true
  · simp only [kept, if_true]
    exact .done post
  by_cases loading : r.progress.phase = .loading
  · simp only [kept, loading, if_true]
    -- both wait for the same build, each for its own number
    refine .wait (fun mirrors => ?_) (.done post)
    obtain ⟨s, known, known', -⟩ := mirrors.registration
    rw [Workspace.isLoading, Workspace.isLoading, known, known']
  · simp only [kept, loading, if_false]
    exact alike_build within post

/-- Two registrations that correspond to each other are found in force, as the same, or neither
is. -/
theorem alike_built {Q : Pairing → Option Registration → Option Registration → Prop}
    (inForce : ∀ r : Registration, r.binding.Within m → Q (some (g, k)) (some r) (some r))
    (superseded : Q (some (g, k)) none none) :
    Alike m Q (built g) (built k) (some (g, k)) := by
  refine .bind (alike_ensureBuilt (.bind (alike_workspace fun {w v} mirrors => ?_)))
  obtain ⟨r, known, known', -, within⟩ := mirrors.registration
  rw [mirrors.isCurrent, known, known']
  by_cases current : w.isCurrent g = true
  · rw [if_pos current, if_pos current]
    exact .done (inForce r within)
  · rw [if_neg current, if_neg current]
    exact .bind (alike_modify (fun _ => rfl) (.done superseded))

/-! ### Projects and events -/

theorem alike_forProject {Q : Pairing → Except Failure α → Except Failure α → Prop}
    {f : Generation → Work (Except Failure α)}
    (absent : Q none (.error (.projectNotFound m.project)) (.error (.projectNotFound m.project)))
    (alike : ∀ g k, Alike m Q (f g) (f k) (some (g, k))) :
    Alike m Q (forProject m.project f) (forProject m.project f) bound := by
  refine .bind (.resolve fun found => .done ?_)
  cases found with
  | none => exact .done absent
  | some pair => exact alike pair.1 pair.2

/-- The work is for the same two registrations to its end, and the result is the same. -/
def Agrees (pair : Generation × Generation) {α : Type} : Pairing → α → α → Prop :=
  fun bound a a' => bound = some pair ∧ a' = a

theorem alike_onceBuilt {f f' : Registration → Work α} (project : String)
    (alike : ∀ r : Registration, r.binding.Within m →
      Alike m (Agrees (g, k)) (f r) (f' r) (some (g, k))) :
    Alike m (Agrees (g, k)) (onceBuilt g project f) (onceBuilt k project f') (some (g, k)) := by
  refine .bind (alike_built (fun r within => ?_) (.done ⟨rfl, rfl⟩))
  refine .bind ((alike r within).mono fun bound a a' agrees => ?_)
  obtain ⟨rfl, rfl⟩ := agrees
  exact .done ⟨rfl, rfl⟩

theorem alike_event {f f' : Registration → Work α} (project : String)
    (alike : ∀ r : Registration, r.binding.Within m →
      Alike m (Agrees (g, k)) (f r) (f' r) (some (g, k))) :
    Alike m (Agrees (g, k)) (event g project f) (event k project f') (some (g, k)) := by
  refine .bind (.wait (fun mirrors => ?_) (.done ?_))
  · obtain ⟨r, known, known', -⟩ := mirrors.registration
    rw [Workspace.isLocked, Workspace.isLocked, known, known']
  refine .bind (alike_modify (fun _ => rfl) (.bind ?_))
  refine (alike_onceBuilt project alike).mono fun bound result result' agrees => ?_
  obtain ⟨rfl, rfl⟩ := agrees
  exact .bind (alike_modify (fun _ => rfl) (.done ⟨rfl, rfl⟩))

theorem alike_applyMetadata (metadata : Metadata) {r : Registration} (within : r.binding.Within m) :
    Alike m (Agrees (g, k)) (applyMetadata g metadata r) (applyMetadata k metadata r)
      (some (g, k)) := by
  refine .bind (alike_modify (fun _ => rfl) (.bind ?_))
  refine alike_loadConfigs within.declarations (within.sources _ List.mem_cons_self) _ ?_
  exact .bind (alike_modify (fun _ => rfl) (.done ⟨rfl, rfl⟩))

theorem alike_dropMetadata (r : Registration) :
    Alike m (Agrees (g, k)) (dropMetadata g r) (dropMetadata k r) (some (g, k)) := by
  refine .bind (alike_modify (fun _ => rfl) (.bind (alike_modify (fun _ => rfl) ?_)))
  exact .done ⟨rfl, rfl⟩

theorem alike_retargetTypes (types : List TypeName) {r : Registration}
    (within : r.binding.Within m) :
    Alike m (Agrees (g, k)) (retargetTypes g types r) (retargetTypes k types r)
      (some (g, k)) := by
  refine .bind (alike_workspace fun mirrors => .bind (alike_modify (fun mirrors' => ?_) ?_))
  · exact congrArg (fun targetsOf => Progress.modifyIndex fun x =>
      (x.retargetTypes targetsOf types).2) (mirrors'.targetsOf within.declarations)
  · refine .done ⟨rfl, ?_⟩
    exact congrArg (fun targetsOf => (r.progress.index.retargetTypes targetsOf types).1)
      (mirrors.targetsOf within.declarations)

end Work

/-! ### Requests -/

/-- What an answer says about a project: of the names of all projects, whether its own is among
them. -/
def Answer.about (project : String) : Answer → Answer
  | projects names => projects (names.filter (· == project))
  | answer => answer

/-- The project that a request names. -/
def Operation.namedProject? : Operation → Option String
  | register project _ | removeProject project | phase project | environment project
  | index project | tryMixins project _ | mixins project _ | augmentations project _
  | metadataChanged project _ | metadataRemoved project | typesChanged project _ => some project
  | projects | putFile .. | removeFile .. | declare .. | undeclare .. => none

namespace Operation

open Work

variable {m : Realm}

/-- The answers say the same about the project of a realm. -/
def SaysSame (m : Realm) (_ : Pairing) (answer answer' : Answer) : Prop :=
  answer'.about m.project = answer.about m.project

/-- A question that the workspace answers at once. -/
theorem alike_question {question : Workspace → Answer}
    (same : ∀ {w v : Workspace}, w.MirrorsAt m none v →
      (question v).about m.project = (question w).about m.project) :
    Alike m (SaysSame m) (workspace >>= fun w => .done (question w))
      (workspace >>= fun w => .done (question w)) none :=
  .bind (alike_workspace fun mirrors => .done (same mirrors))

/-- An event, which ends with the same result for both registrations. -/
theorem alike_ofEvent {α : Type} {f : Generation → Work (Except Failure α)} (answer : α → Answer)
    (alike : ∀ g k, Alike m (Agrees (g, k)) (f g) (f k) (some (g, k))) :
    Alike m (SaysSame m) (forProject m.project f >>= fun result => .done (.ofResult answer result))
      (forProject m.project f >>= fun result => .done (.ofResult answer result)) none := by
  refine .bind (alike_forProject (.done rfl) fun g k => ?_)
  refine (alike g k).mono fun bound a a' agrees => ?_
  obtain ⟨rfl, rfl⟩ := agrees
  exact .done rfl

/-- An index that is found is the same. -/
theorem alike_index {Q : Pairing → Except Failure Index → Except Failure Index → Prop}
    (same : ∀ bound result, Q bound result result) :
    Alike m Q (Work.index m.project) (Work.index m.project) none :=
  alike_forProject (same _ _) fun _ _ =>
    .bind (alike_built (fun _ _ => .done (same _ _)) .restart)

theorem alike_augmentations (target : TypeName) :
    Alike m (SaysSame m) (augmentations m.project target).work
      (augmentations m.project target).work none := by
  refine .bind (alike_forProject (.done rfl) fun g k => ?_)
  refine .bind ((alike_onceBuilt m.project fun r within => ?_).mono fun bound a a' agrees => ?_)
  · refine .bind (alike_workspace fun mirrors => .done ⟨rfl, ?_⟩)
    rw [mirrors.config, mirrors.catalogue within.declarations]
  · obtain ⟨rfl, rfl⟩ := agrees
    exact .done (.done rfl)

/-- Requests about the project of a realm do the same in workspaces that show the same of it. -/
theorem alike {operation : Operation} (request : operation.isEdit = false)
    (named : operation = .projects ∨ operation.namedProject? = some m.project) :
    Alike m (SaysSame m) operation.work operation.work none := by
  rcases named with rfl | named
  · refine alike_question fun mirrors => ?_
    obtain ⟨paired, mirrors, -⟩ := mirrors
    show Answer.projects _ = Answer.projects _
    rw [Workspace.filter_projectNames, Workspace.filter_projectNames, mirrors.isSome_current?]
  cases operation with
  | register | removeProject | putFile | removeFile | declare | undeclare => cases request
  | projects => cases named
  | phase project =>
      obtain rfl := Option.some.inj named
      refine alike_question fun mirrors => ?_
      rw [Workspace.phase, mirrors.currentRegistration?]
      rfl
  | environment project =>
      obtain rfl := Option.some.inj named
      refine alike_question fun mirrors => ?_
      rw [Workspace.environment, mirrors.currentRegistration?]
      rfl
  | tryMixins project target =>
      obtain rfl := Option.some.inj named
      refine alike_question fun mirrors => ?_
      rw [Workspace.tryMixins, mirrors.currentRegistration?]
      rfl
  | index project =>
      obtain rfl := Option.some.inj named
      exact .bind (alike_index fun _ _ => .done rfl)
  | mixins project target =>
      obtain rfl := Option.some.inj named
      exact .bind (.bind (alike_index fun _ _ => .done (.done rfl)))
  | augmentations project target =>
      obtain rfl := Option.some.inj named
      exact alike_augmentations target
  | metadataChanged project text =>
      obtain rfl := Option.some.inj named
      refine alike_ofEvent .diff fun g k => ?_
      cases Metadata.ofText text with
      | error failure => exact .done ⟨rfl, rfl⟩
      | ok metadata =>
          exact alike_event m.project fun r within => alike_applyMetadata metadata within
  | metadataRemoved project =>
      obtain rfl := Option.some.inj named
      exact alike_ofEvent .configs fun g k => alike_event m.project fun r _ => alike_dropMetadata r
  | typesChanged project types =>
      obtain rfl := Option.some.inj named
      exact alike_ofEvent .targets fun g k =>
        alike_event m.project fun r within => alike_retargetTypes types within

end Operation

end MixinIndex
