import MixinIndex.Proofs.Store.Moves
import MixinIndex.Proofs.Store.Tending

/-!
# Requests for one registration

Events, and the question for augmentations, are for the registration that their call has found in
force, and fail if this is superseded before its index has been seen to.  After that only an event
of new metadata reads anything, so it alone may be lost on a registration that is superseded
meanwhile.

## Main definitions

* `Operation.boundProject?`: the requests that are for one registration
* `Workspace.Concludes`: how they end
* `Call.IsTended`, `Session.Tended`: calls tend all indexes
* `Session.Advances`: what a move does

## Main statements

* `Operation.tends`: all requests tend the indexes
* `Session.Tended.advances`, `Session.Tended.step`: a session remains tended
* `Session.Advances.concludes`, `Session.concludes_of_returned`: how every such request ends, in
  every session
* `Session.concludes_of_returned_lost`: an event that is lost
-/

namespace MixinIndex

/-- The project of a request that is for one registration. -/
def Operation.boundProject? : Operation → Option String
  | augmentations project _ | metadataChanged project _ | metadataRemoved project
  | typesChanged project _ => some project
  | _ => none

theorem Operation.boundProject?_of_isEdit {operation : Operation}
    (edit : operation.isEdit = true) : operation.boundProject? = none := by
  cases operation <;> first | rfl | cases edit

/-- How a request for one registration of a project ends, by the request, the registration that it
was for, and its answer, in the workspace as it is when it returns. -/
inductive Workspace.Concludes (v : Workspace) (project : String) :
    Operation → Option Generation → Answer → Prop
  /-- The project is not registered. -/
  | unregistered {operation : Operation} (absent : v.current? project = none) :
      Concludes v project operation none (.failed (.projectNotFound project))
  /-- The registration that was found in force is so no longer. -/
  | superseded {operation : Operation} {g : Generation} (gone : v.current? project ≠ some g) :
      Concludes v project operation (some g) (.failed (.projectNotFound project))
  /-- The augmentations are those that the index of a registration in force gives. -/
  | answered {target : TypeName} {g : Generation} {r : Registration} {answer : Answer}
      (inForce : v.current? project = some g) (known : v.registration? g = some r)
      (answers : answer = .ofResult .augmentations (augmentationsOf v.config.annotations
        (v.catalogue r.binding.declarations) r.progress.index target)) :
      Concludes v project (.augmentations project target) (some g) answer
  /-- A metadata text makes no sense. -/
  | meaningless {text : String} {g : Generation} {failure : Failure}
      (read : Metadata.ofText text = .error failure) (inForce : v.current? project = some g) :
      Concludes v project (.metadataChanged project text) (some g) (.failed failure)
  /-- New metadata is in place.  If no config had to be read for it, the registration is in
  force. -/
  | changed {text : String} {g : Generation} {r : Registration} {metadata : Metadata}
      {diff : Metadata.Diff} (read : Metadata.ofText text = .ok metadata)
      (known : v.registration? g = some r)
      (applied : r.progress.environment.project = some ⟨r.binding.source, metadata⟩)
      (inForce : diff.added.isEmpty = true → v.current? project = some g) :
      Concludes v project (.metadataChanged project text) (some g) (.diff diff)
  /-- The own mod of a registration in force is gone. -/
  | removed {g : Generation} {r : Registration} {configs : Std.ExtTreeSet String}
      (inForce : v.current? project = some g) (known : v.registration? g = some r)
      (applied : r.progress.environment.project = none) :
      Concludes v project (.metadataRemoved project) (some g) (.configs configs)
  /-- The index of a registration in force reflects the declarations of all types concerned. -/
  | retargeted {types : List TypeName} {g : Generation} {stale : Std.ExtTreeSet TypeName}
      (inForce : v.current? project = some g) (applied : v.Reflects g (· ∉ types)) :
      Concludes v project (.typesChanged project types) (some g) (.targets stale)

/-- If a request is for one registration, it ends as such a request does. -/
def Operation.Concludes (operation : Operation) (bound : Option Generation) (answer : Answer)
    (v : Workspace) : Prop :=
  ∀ project, operation.boundProject? = some project → v.Concludes project operation bound answer

/-! ### Each event -/

namespace Work

variable {g : Generation} {project : String} {b : Binding} {v : Workspace} {r : Registration}

/-- New metadata: only while configs are read can the registration be superseded. -/
theorem tends_applyMetadata {text : String} {metadata : Metadata}
    (read : Metadata.ofText text = .ok metadata) (h : Attends g project b v) (begun : v.Begun g)
    (inForce : v.current? project = some g) (known : v.registration? g = some r) :
    Tends (fun bound diff u => Attends g project b u ∧
      (u.modify g Progress.unlock).Concludes project (.metadataChanged project text) bound
        (.diff diff)) (applyMetadata g metadata r) (some g) v := by
  obtain ⟨s, knownS, -, rfl⟩ := h.registration
  obtain rfl := Option.some.inj (known.symm.trans knownS)
  set diff := metadata.diffFrom r.progress.environment.projectMetadata
  have removed : v.Keeps (v.modify g (Progress.modifyIndex (·.removeAll diff.removed.toList))) :=
    .modifyIndex begun fun r _ apart reflects => reflects.removeAll diff.removed.toList
  refine .bind (tends_modify h removed fun attends => ?_)
  refine .bind (tends_loadConfigs _ attends (begun.evolves removed.evolves)
    fun u evolves attends unread => ?_)
  have placed : u.Keeps (u.modify g (Progress.setProjectMod (some ⟨r.binding.source, metadata⟩))) :=
    .modify_quiet u g fun p => ⟨rfl, rfl, id⟩
  refine .bind (tends_modify attends placed fun attends' => ⟨attends', ?_⟩)
  obtain ⟨r', known', -, sameBinding⟩ := attends.registration
  refine .changed (r := (r'.modify (Progress.setProjectMod
    (some ⟨r.binding.source, metadata⟩))).modify Progress.unlock) read ?_ ?_ fun none => ?_
  · rw [Workspace.registration?_modify_self, Workspace.registration?_modify_self, known']
    rfl
  · show _ = some (LoadedMod.mk r'.binding.source metadata)
    rw [sameBinding]
    rfl
  · -- nothing was read, so nothing has happened since the registration was found in force
    rw [unread (by simpa using none)]
    exact inForce

/-- The own mod goes without anything being read. -/
theorem tends_dropMetadata (h : Attends g project b v) (begun : v.Begun g)
    (inForce : v.current? project = some g) :
    Tends (fun bound configs u => Attends g project b u ∧
      (u.modify g Progress.unlock).Concludes project (.metadataRemoved project) bound
        (.configs configs)) (dropMetadata g r) (some g) v := by
  obtain ⟨s, known, -, -⟩ := h.registration
  have placed : v.Keeps (v.modify g (Progress.setProjectMod none)) :=
    .modify_quiet v g fun p => ⟨rfl, rfl, id⟩
  refine .bind (tends_modify h placed fun attends => ?_)
  refine .bind (tends_modify attends (.modifyIndex (begun.evolves placed.evolves)
    fun r _ apart reflects => reflects.removeAll _) fun attends' => ⟨attends', ?_⟩)
  refine .removed (r := ((s.modify (Progress.setProjectMod none)).modify (Progress.modifyIndex
    (·.removeAll r.progress.environment.projectConfigs.toList))).modify Progress.unlock)
    inForce ?_ rfl
  simp only [Workspace.registration?_modify_self, known]
  rfl

/-- Types are pointed elsewhere without anything being read. -/
theorem tends_retargetTypes {types : List TypeName} (h : Attends g project b v)
    (begun : v.Begun g) (inForce : v.current? project = some g)
    (known : v.registration? g = some r) :
    Tends (fun bound stale u => Attends g project b u ∧
      (u.modify g Progress.unlock).Concludes project (.typesChanged project types) bound
        (.targets stale)) (retargetTypes g types r) (some g) v := by
  refine .bind (.bind (tends_modify h (.modifyIndex begun fun s knownS apart reflects => ?_)
    fun attends => ⟨attends, .retargeted inForce ?_⟩))
  · obtain rfl := Option.some.inj (known.symm.trans knownS)
    refine (reflects.retargetTypes types).mono fun type reflected => ⟨?_, rfl⟩
    exact fun both => reflected both.1
  · intro s knownS
    rw [Workspace.registration?_modify_self, Workspace.registration?_modify_self, known] at knownS
    obtain rfl := Option.some.inj knownS
    have listed := h.orderly.listed g r known
    refine (listed.retargetTypes types).mono fun type among => ⟨?_, rfl⟩
    exact fun both => among both.2

end Work

/-! ### All requests -/

namespace Operation

open Work

variable {operation : Operation} {project : String} {bound : Option Generation} {answer : Answer}
  {v : Workspace}

theorem Concludes.of_bound (named : operation.boundProject? = some project)
    (h : v.Concludes project operation bound answer) : operation.Concludes bound answer v := by
  intro other same
  obtain rfl := Option.some.inj (named.symm.trans same)
  exact h

theorem Concludes.of_other (other : operation.boundProject? = none) :
    operation.Concludes bound answer v := by
  intro project named
  rw [other] at named
  cases named

/-- An event tends the indexes, and ends as it should, if its own work does. -/
theorem tends_ofEvent {α : Type} {w : Workspace} {answer : α → Answer}
    {f : Generation → Registration → Work α} (named : operation.boundProject? = some project)
    (own : ∀ v g b r, Attends g project b v → v.Begun g → v.current? project = some g →
      v.registration? g = some r → Tends (fun bound a u => Attends g project b u ∧
        (u.modify g Progress.unlock).Concludes project operation bound (answer a))
          (f g r) (some g) v) :
    Tends operation.Concludes
      (forProject project (fun g => event g project (f g)) >>= fun result =>
        .done (.ofResult answer result)) none w := by
  refine .bind (tends_forProject (fun v absent => ?_) fun v g b _ attends => ?_)
  · exact .of_bound named (.unregistered absent)
  · refine tends_event attends (fun u gone => ?_) fun u r attends begun inForce known => ?_
    · exact .of_bound named (.superseded gone)
    · refine (own u g b r attends begun inForce known).mono fun bound a t ends => ?_
      exact ⟨ends.1, .of_bound named ends.2⟩

/-- All requests tend the indexes, and those for one registration end as they should. -/
theorem tends (operation : Operation) (request : operation.isEdit = false) (w : Workspace) :
    operation.work.Tends operation.Concludes none w := by
  cases operation with
  | register | removeProject | putFile | removeFile | declare | undeclare => cases request
  | projects | phase | environment | tryMixins => exact .of_other rfl
  | index project =>
      refine .bind (tends_forProject (fun v _ => .of_other rfl) fun v g b _ attends => ?_)
      exact .bind (tends_built attends (fun u r _ _ _ _ _ => .of_other rfl) fun u _ _ _ => trivial)
  | mixins project target =>
      refine .bind (.bind (tends_forProject (fun v _ => .of_other rfl) fun v g b _ attends => ?_))
      exact .bind (tends_built attends (fun u r _ _ _ _ _ => .of_other rfl) fun u _ _ _ => trivial)
  | augmentations project target =>
      refine .bind (tends_forProject (fun v absent => ?_) fun v g b _ attends => ?_)
      · exact .of_bound rfl (.unregistered absent)
      refine .bind (.bind ?_)
      refine tends_built attends (fun u r _ _ _ inForce known => ?_) fun u _ _ gone => ?_
      · exact .of_bound rfl (.answered inForce known rfl)
      · exact .of_bound rfl (.superseded gone)
  | metadataChanged project text =>
      cases read : Metadata.ofText text with
      | error failure =>
          refine .bind (tends_forProject (fun v absent => ?_) fun v g b inForce attends => ?_)
          · exact .of_bound rfl (.unregistered absent)
          · rw [read]
            exact .of_bound rfl (.meaningless read inForce)
      | ok metadata =>
          have applies : Work.metadataChanged project text =
              forProject project fun g => event g project (applyMetadata g metadata) := by
            unfold Work.metadataChanged
            rw [read]
          show Tends _ (Work.metadataChanged project text >>= _) none w
          rw [applies]
          exact tends_ofEvent rfl fun v g b r attends begun inForce known =>
            tends_applyMetadata read attends begun inForce known
  | metadataRemoved project =>
      exact tends_ofEvent rfl fun v g b r attends begun inForce _ =>
        tends_dropMetadata attends begun inForce
  | typesChanged project types =>
      exact tends_ofEvent rfl fun v g b r attends begun inForce known =>
        tends_retargetTypes attends begun inForce known

end Operation

/-! ### Edits -/

namespace Workspace.Edits

variable {w v : Workspace} {g : Generation}

/-- A registration has the index that it had, or nothing has been built for it. -/
theorem index_eq (h : w.Edits v) {r : Registration} (known : v.registration? g = some r) :
    r.progress = {} ∨ ∃ s, w.registration? g = some s ∧ s.binding = r.binding ∧
      s.progress.phase = r.progress.phase ∧ s.progress.index = r.progress.index ∧
        (r.progress.isKept = true → s.progress.isKept = true) := by
  cases before : w.registration? g with
  | none => exact Or.inl (h.fresh before known)
  | some s =>
      rcases h.registration before with same | ⟨dropped, -⟩
      · obtain rfl := Option.some.inj (known.symm.trans same)
        exact Or.inr ⟨r, rfl, rfl, rfl, rfl, id⟩
      · obtain rfl := Option.some.inj (known.symm.trans dropped)
        exact Or.inr ⟨s, rfl, rfl, rfl, rfl, fun kept => by cases kept⟩

/-- An index reflects the declarations as far as it did, except where these have changed. -/
theorem reflects (h : w.Edits v) {apart apart' : TypeName → Prop} (before : w.Reflects g apart)
    (same : ∀ r, v.registration? g = some r → ∀ type, ¬ apart' type → ¬ apart type ∧
      (v.catalogue r.binding.declarations).find? type =
        (w.catalogue r.binding.declarations).find? type) : v.Reflects g apart' := by
  intro r known
  rcases h.index_eq known with new | ⟨s, knownS, sameBinding, -, sameIndex, -⟩
  · rw [new]
    exact Index.reflects_empty _ apart'
  · rw [← sameIndex]
    refine (before s knownS).mono fun type reflected => ?_
    obtain ⟨reflected, declared⟩ := same r known type reflected
    refine ⟨reflected, ?_⟩
    rw [sameBinding, targetsOf, targetsOf, Catalogue.targetsOf, Catalogue.targetsOf, declared,
      h.config]

theorem orderly (h : w.Edits v) (orderly : w.Orderly) : v.Orderly where
  unbuilt := by
    intro g r known unloaded
    rcases h.index_eq known with new | ⟨s, knownS, -, samePhase, sameIndex, stillKept⟩
    · rw [new]
      exact ⟨rfl, rfl⟩
    · obtain ⟨empty, unkept⟩ := orderly.unbuilt knownS (samePhase.trans unloaded)
      refine ⟨sameIndex.symm.trans empty, ?_⟩
      rw [Bool.eq_false_iff]
      intro kept
      rw [stillKept kept] at unkept
      cases unkept
  listed := fun g => h.reflects (orderly.listed g) fun _ _ _ known => absurd trivial known

end Workspace.Edits

/-! ### Sessions -/

/-- A call is no edit, and its work tends the indexes. -/
structure Call.IsTended (call : Call) (w : Workspace) : Prop where
  request : call.operation.isEdit = false
  work : call.work.Tends call.operation.Concludes call.bound w

theorem Call.GoesOn.isSuspended {old call : Call} {w : Workspace} (h : old.GoesOn w call) :
    old.work.isSuspended = true := by
  cases h <;> rfl

/-- A call that goes on still tends the indexes. -/
theorem Call.GoesOn.isTended {old call : Call} {w : Workspace} (h : old.GoesOn w call)
    (tended : old.IsTended w) (orderly : w.Orderly) : call.IsTended w := by
  obtain ⟨request, work⟩ := tended
  cases h with
  | resolve => exact ⟨request, work w (.refl w) orderly⟩
  | read => exact ⟨request, work w (.refl w) orderly _⟩
  | wait operation bound now next => exact ⟨request, work w (.refl w) orderly now⟩
  | restart operation bound => exact ⟨request, operation.tends request w⟩

/-- Whether a move can change what is registered, or the sources and declarations. -/
def Move.isEdit : Move → Bool
  | call operation => operation.isEdit
  | resume _ => false
  | outside _ => true

namespace Session

/-- All indexes are orderly, and all calls that have not returned tend them. -/
structure Tended (s : Session) : Prop where
  orderly : s.workspace.Orderly
  tended : ∀ call ∈ s.calls, call.work.isSuspended = true → call.IsTended s.workspace

/-- What a move does: an edit, or a stretch of the work of one call that tends the indexes. -/
inductive Advances (s : Session) (move : Move) (s' : Session) : Prop
  /-- At most a new call that has returned. -/
  | edit (edits : s.workspace.Edits s'.workspace)
      (calls : ∀ (i : Nat) (call : Call), s'.calls[i]? = some call → s.calls[i]? = some call ∨
        call.operation.isEdit = true ∧ call.work.isSuspended = false)
      (declares : move.isEdit = false → s'.workspace.catalogues = s.workspace.catalogues)
  /-- A call that has begun or gone on. -/
  | work (i : Nat) (call : Call) (here : s'.calls[i]? = some call)
      (others : ∀ j, i ≠ j → s'.calls[j]? = s.calls[j]?)
      (keeps : s.workspace.Keeps s'.workspace) (tended : call.IsTended s'.workspace)

variable {s : Session}

theorem Tended.advances (h : s.Tended) (move : Move) : s.Advances move (s.step move) := by
  cases s.moved move with
  | still workspace calls =>
      refine .edit (.of_registry (congrArg Workspace.config workspace)
        (congrArg Workspace.registry workspace)) (fun i call here => Or.inl ?_) fun _ => ?_
      · rw [← calls]
        exact here
      · rw [workspace]
  | outside w isOutside config registry calls =>
      refine .edit (.of_registry config registry) (fun i call here => Or.inl ?_) fun other => ?_
      · rw [← calls]
        exact here
      · rw [isOutside] at other
        cases other
  | stretch i call starts workspace here others =>
      by_cases edit : call.operation.isEdit = true
      · cases starts with
        | begins operation =>
            obtain ⟨⟨answer, returned⟩, edits⟩ := operation.edits edit s.workspace
            rw [← workspace] at edits
            refine .edit edits (fun j other there => ?_) fun request => ?_
            · by_cases same : s.calls.length = j
              · subst same
                obtain rfl := Option.some.inj (here.symm.trans there)
                exact Or.inr ⟨edit, congrArg Work.isSuspended returned⟩
              · exact Or.inl ((others j same).symm.trans there)
            · exact absurd (request.symm.trans edit) Bool.false_ne_true
        | goesOn before goesOn =>
            -- an edit never stops, so no call goes on with one
            have tended := h.tended _ (List.mem_of_getElem? before) goesOn.isSuspended
            rw [(goesOn.isTended tended h.orderly).request] at edit
            cases edit
      · have request : call.operation.isEdit = false := by simpa using edit
        have tended : call.IsTended s.workspace := by
          cases starts with
          | begins operation => exact ⟨request, operation.tends request _⟩
          | goesOn before goesOn =>
              have member := List.mem_of_getElem? before
              exact goesOn.isTended (h.tended _ member goesOn.isSuspended) h.orderly
        obtain ⟨keeps, rest⟩ := tended.work.advance
        rw [← workspace] at keeps rest
        exact .work i _ here others keeps ⟨request, rest⟩

theorem Advances.evolves {move : Move} {s' : Session} (h : s.Advances move s') :
    s.workspace.Evolves s'.workspace := by
  cases h with
  | edit edits => exact edits.evolves
  | work _ _ _ _ keeps => exact keeps.evolves

/-- Only edits change declarations. -/
theorem Tended.catalogues_step (h : s.Tended) {move : Move} (request : move.isEdit = false) :
    (s.step move).workspace.catalogues = s.workspace.catalogues := by
  cases h.advances move with
  | edit _ _ declares => exact declares request
  | work _ _ _ _ keeps => exact keeps.catalogues

/-- A session remains tended. -/
theorem Tended.step (h : s.Tended) (move : Move) : (s.step move).Tended := by
  cases h.advances move with
  | edit edits calls declares =>
      refine ⟨edits.orderly h.orderly, fun call member suspended => ?_⟩
      obtain ⟨i, here⟩ := List.mem_iff_getElem?.1 member
      rcases calls i call here with old | ⟨-, returned⟩
      · have before := h.tended call (List.mem_of_getElem? old) suspended
        exact ⟨before.request, before.work.stable suspended edits.evolves⟩
      · rw [returned] at suspended
        cases suspended
  | work i moved at_i others keeps tended =>
      refine ⟨keeps.orderly h.orderly, fun call member suspended => ?_⟩
      obtain ⟨j, here⟩ := List.mem_iff_getElem?.1 member
      by_cases same : i = j
      · subst same
        obtain rfl := Option.some.inj (at_i.symm.trans here)
        exact tended
      · have old := (others j same).symm.trans here
        have before := h.tended call (List.mem_of_getElem? old) suspended
        exact ⟨before.request, before.work.stable suspended keeps.evolves⟩

theorem run_concat (s : Session) (moves : List Move) (move : Move) :
    s.run (moves ++ [move]) = (s.run moves).step move :=
  List.foldl_append ..

theorem tended_start (w : Workspace) : (start w).Tended := by
  have unregistered : ∀ g, (start w).workspace.registration? g = none := fun g => rfl
  refine ⟨⟨fun {g r} known => ?_, fun g r known => ?_⟩, fun _ member => ?_⟩
  · rw [unregistered] at known
    cases known
  · rw [unregistered] at known
    cases known
  · exact absurd member List.not_mem_nil

theorem tended_run (w : Workspace) (moves : List Move) : ((start w).run moves).Tended := by
  have steps (s : Session) (h : s.Tended) : (s.run moves).Tended := by
    induction moves generalizing s with
    | nil => exact h
    | cons move moves ih => exact ih _ (h.step move)
  exact steps _ (tended_start w)

/-- A request for one registration that returns in a move ends as it should. -/
theorem Advances.concludes {move : Move} {s' : Session} (h : s.Advances move s') {i : Nat}
    {call : Call} {project : String} {answer : Answer} (here : s'.calls[i]? = some call)
    (fresh : s.calls[i]? ≠ some call) (request : call.operation.boundProject? = some project)
    (returned : call.work = .done answer) :
    s'.workspace.Concludes project call.operation call.bound answer := by
  cases h with
  | edit edits calls declares =>
      rcases calls i call here with old | ⟨edit, -⟩
      · exact absurd old fresh
      · rw [Operation.boundProject?_of_isEdit edit] at request
        cases request
  | work j moved at_j others keeps tended =>
      by_cases same : j = i
      · subst same
        obtain rfl := Option.some.inj (at_j.symm.trans here)
        have concludes := tended.work
        rw [returned] at concludes
        exact concludes project request
      · exact absurd ((others i same).symm.trans here) fresh

/-- In every session, and whatever the move is, each request for one registration that returns in
it ends as it should: an event that succeeds was applied to a registration in force, unless configs
had to be read for it, and one that fails with a text that makes sense finds its registration no
longer in force. -/
theorem concludes_of_returned (w : Workspace) (moves : List Move) (move : Move) {i : Nat}
    {call : Call} {project : String} {answer : Answer}
    (here : ((start w).run (moves ++ [move])).calls[i]? = some call)
    (fresh : ((start w).run moves).calls[i]? ≠ some call)
    (request : call.operation.boundProject? = some project) (returned : call.work = .done answer) :
    ((start w).run (moves ++ [move])).workspace.Concludes project call.operation call.bound
      answer := by
  rw [run_concat] at here ⊢
  exact ((tended_run w moves).advances move).concludes here fresh request returned

end Session

/-! ### A lost event -/

/-- Whether an event of new metadata has been applied to a registration. -/
def Call.hasChanged (project text : String) (g : Generation) : Call → Bool
  | ⟨.metadataChanged project' text', some g', .done (.diff _)⟩ =>
    project' = project ∧ text' = text ∧ g' = g
  | _ => false

namespace Session

/-- The text of metadata that declare one config. -/
def declaring : String := "\x7b\"schemaVersion\": 1, \"id\": \"m\", \"mixins\": [\"c\"]\x7d"

/-- Two sources, of which only one has the config. -/
def twoSources : Workspace where
  sources := .ofList [
    ("old", Source.memory "old" (.ofList [("c", "\x7b\"package\": \"q\", \"mixins\": []\x7d")])),
    ("new", Source.memory "new" ∅)]

/-- An event of new metadata has come as far as to read the config, when its project is registered
anew. -/
def superseding : List Move :=
  [.call (.register "p" ⟨"old", [], "d"⟩), .call (.metadataChanged "p" declaring), .resume 1,
    .resume 1, .resume 1, .call (.register "p" ⟨"new", [], "d"⟩)]

/-- The event answers with a difference, and nothing of it is to be seen in the project. -/
theorem concludes_of_returned_lost :
    ∃ (s : Session) (r : Registration) (diff : Metadata.Diff) (metadata : Metadata),
      s = (start twoSources).run (superseding ++ [.resume 1]) ∧
        s.calls[1]? = some ⟨.metadataChanged "p" declaring, some 0, .done (.diff diff)⟩ ∧
        Metadata.ofText declaring = .ok metadata ∧ s.workspace.registration? 0 = some r ∧
          r.progress.environment.project = some ⟨r.binding.source, metadata⟩ ∧
        s.workspace.current? "p" = some 1 ∧
          (s.workspace.environment "p").any (·.project.isNone) = true := by
  have before : ((start twoSources).run superseding).calls[1]?.any (·.work.isSuspended) = true := by
    decide +kernel
  have after : ((start twoSources).run (superseding ++ [.resume 1])).calls[1]?.any
      (·.hasChanged "p" declaring 0) = true := by
    decide +kernel
  obtain ⟨call, here, form⟩ := (Option.any_eq_true _ _).1 after
  unfold Call.hasChanged at form
  split at form
  · obtain ⟨rfl, rfl, rfl⟩ := of_decide_eq_true form
    have fresh : ∀ answer, ((start twoSources).run superseding).calls[1]? ≠
        some ⟨.metadataChanged "p" declaring, some 0, .done answer⟩ := by
      intro answer same
      rw [same] at before
      cases before
    have concludes :=
      concludes_of_returned twoSources superseding (.resume 1) here (fresh _) rfl rfl
    cases concludes with
    | changed read known applied _ =>
        exact ⟨_, _, _, _, rfl, here, read, known, applied, by decide +kernel, by decide +kernel⟩
  · cases form

end Session

end MixinIndex
