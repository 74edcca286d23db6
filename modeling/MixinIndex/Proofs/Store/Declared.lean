import MixinIndex.Proofs.Store.LoadState

/-!
# Declared configs

No config stays behind in an index.  Whatever requests are served, every config that an index holds
is declared by a mod that is present: events work on the difference between the metadata of the own
mod before and after, configs of one name may come from several mods, and files may fail to load,
but what no mod declares any more is struck out.

## Main definitions

* `Environment.Declares`: a mod that is present declares a config
* `Progress.IsCovered`: a complete index, all of whose configs are declared

## Main statements

* `Workspace.isCovered_afterBuild`: a build leads to a covered index
* `Progress.IsCovered.applyMetadata`, `Progress.IsCovered.dropMetadata`,
  `Progress.IsCovered.retargetTypes`: events keep it covered
* `Operation.perform_covers`: so do all requests about a project
* `Workspace.After.configs_declared`: no index holds a config that nobody declares

## Design notes

The metadata of the own mod may strike out a config that a mod of the classpath declares as well,
and of several files of one name only the last one read is held.  So the configs held may be fewer
than those that are declared, but never others.
-/

namespace MixinIndex

/-- A mod that is present declares a config. -/
def Environment.Declares (e : Environment) (config : String) : Prop :=
  ∃ mod ∈ e.mods, config ∈ mod.metadata.configs

/-- A complete index, and all configs that it holds are declared by mods that are present. -/
def Progress.IsCovered (p : Progress) : Prop :=
  ∃ m, p.Built p.environment m ∧ ∀ config ∈ m, p.environment.Declares config

namespace Environment

theorem declares_iff {e : Environment} {config : String} :
    e.Declares config ↔ config ∈ e.projectConfigs ∨
      ∃ mod ∈ e.classpath, config ∈ mod.metadata.configs := by
  obtain ⟨project, classpath⟩ := e
  cases project with
  | none => simp [Declares, mods, projectConfigs, projectMetadata]
  | some mod => simp [Declares, mods, projectConfigs, projectMetadata]

end Environment

/-! ### Builds -/

namespace Workspace

variable (w : Workspace)

/-- Only configs that the mods declare are read. -/
theorem exists_of_mem_contributeMods {declarations : String} {mods : List LoadedMod}
    {config : String} (contributed : config ∈ w.contributeMods declarations mods ∅) :
    ∃ mod ∈ mods, config ∈ mod.metadata.configs := by
  by_contra! undeclared
  rw [Std.ExtTreeMap.mem_iff_isSome_getElem?,
    w.getElem?_contributeMods_of_undeclared declarations undeclared] at contributed
  cases contributed

theorem isCovered_afterBuild (b : Binding) (p : Progress) : (w.afterBuild b p).IsCovered := by
  have built := w.built_afterBuild b p
  refine ⟨_, built.self, fun config contributed => ?_⟩
  rw [built.environment]
  exact w.exists_of_mem_contributeMods contributed

end Workspace

/-! ### Events -/

namespace Progress.IsCovered

variable {p : Progress} (h : p.IsCovered)
include h

theorem settled (w : Workspace) (b : Binding) : w.settled b p = p := by
  obtain ⟨m, built, -⟩ := h
  exact built.settled w b

theorem lock : p.lock.IsCovered := by
  obtain ⟨m, built, declared⟩ := h
  exact ⟨m, built.lock, declared⟩

theorem unlock : p.unlock.IsCovered := by
  obtain ⟨m, built, declared⟩ := h
  exact ⟨m, built.unlock, declared⟩

/-- The configs that go are struck out, and those that come are declared by the new metadata. -/
theorem applyMetadata (w : Workspace) (b : Binding) (new : Metadata) :
    (w.applyMetadata b new (new.diffFrom p.environment.projectMetadata) p).IsCovered := by
  obtain ⟨m, built, declared⟩ := h
  have after := built.applyMetadata w b new (new.diffFrom p.environment.projectMetadata)
  refine ⟨_, after.self, fun config contributed => ?_⟩
  rw [after.environment, Environment.declares_iff]
  rw [Std.ExtTreeMap.mem_iff_isSome_getElem?, Workspace.getElem?_contributeConfigs,
    Contributions.getElem?_removeAll] at contributed
  simp only [Std.ExtTreeSet.mem_toList, Metadata.mem_added, Metadata.mem_removed] at contributed
  by_cases kept : config ∈ new.configs
  · exact Or.inl kept
  · -- neither read nor struck out, so it was there before, and not only by the own mod
    simp only [kept, false_and, ↓reduceIte, not_false_eq_true, and_true] at contributed
    split at contributed
    · cases contributed
    · rename_i notOwn
      have before := declared config (Std.ExtTreeMap.mem_iff_isSome_getElem?.2 contributed)
      rw [Environment.declares_iff] at before
      exact Or.inr (before.resolve_left notOwn)

/-- All configs of the own mod are struck out. -/
theorem dropMetadata : (p.dropMetadata p.environment.projectConfigs).IsCovered := by
  obtain ⟨m, built, declared⟩ := h
  have after := built.dropMetadata p.environment.projectConfigs
  refine ⟨_, after.self, fun config contributed => ?_⟩
  rw [after.environment, Environment.declares_iff]
  rw [Std.ExtTreeMap.mem_iff_isSome_getElem?, Contributions.getElem?_removeAll] at contributed
  split at contributed
  · cases contributed
  · rename_i notOwn
    rw [Std.ExtTreeSet.mem_toList] at notOwn
    have before := declared config (Std.ExtTreeMap.mem_iff_isSome_getElem?.2 contributed)
    rw [Environment.declares_iff] at before
    exact Or.inr (before.resolve_left notOwn)

/-- Pointing types elsewhere neither adds nor removes configs. -/
theorem retargetTypes (w : Workspace) (b : Binding) (types : List TypeName) :
    (w.retargetTypes b types p).IsCovered := by
  obtain ⟨m, built, declared⟩ := h
  have after := built.modifyIndex
    (fun x => x.isLoaded_retargetTypes (w.targetsOf b.declarations) types)
    (fun represents => represents.retargetTypes (w.targetsOf b.declarations) types)
  refine ⟨_, after, fun config contributed => declared config ?_⟩
  rw [Std.ExtTreeMap.mem_iff_isSome_getElem?, Contributions.getElem?_retargetTypes,
    Option.isSome_map] at contributed
  exact Std.ExtTreeMap.mem_iff_isSome_getElem?.2 contributed

/-- The configs that the index names are declared. -/
theorem declares_of_mem_configs {config : String} (held : config ∈ p.index.configs) :
    p.environment.Declares config := by
  obtain ⟨m, built, declared⟩ := h
  have names : p.index.configs = m.keys := congrArg View.configs built.represents.view
  rw [names, Std.ExtTreeMap.mem_keys] at held
  exact declared config held

/-- What the index reports comes from a config that it names. -/
theorem exists_config_of_mem_mixinsFor {target : TypeName} {a : Application}
    (reported : a ∈ p.index.mixinsFor target) :
    ∃ config ∈ p.index.configs, a ∈ p.index.configEntries config := by
  obtain ⟨m, built, -⟩ := h
  have view := built.represents.view
  have names : p.index.configs = m.keys := congrArg View.configs view
  have entries (config : String) : p.index.configEntries config = (m.ofConfig config).toList :=
    congrArg (View.configEntries · config) view
  have mixins : p.index.mixinsFor target = (m.toTarget target).toList :=
    congrArg (View.mixinsFor · target) view
  rw [mixins, Std.ExtTreeSet.mem_toList, Contributions.mem_toTarget,
    Contributions.mem_applications] at reported
  obtain ⟨-, config, c, kept, contributed⟩ := reported
  refine ⟨config, ?_, ?_⟩
  · rw [names, Std.ExtTreeMap.mem_keys, Std.ExtTreeMap.mem_iff_isSome_getElem?, kept]
    rfl
  · rw [entries, Std.ExtTreeSet.mem_toList, Contributions.ofConfig, kept]
    exact contributed

end Progress.IsCovered

/-- Once the index of a registration has been seen to, it is covered. -/
theorem Workspace.isCovered_settled (w : Workspace) (b : Binding) {p : Progress}
    (h : p = {} ∨ p.IsCovered) : (w.settled b p).IsCovered := by
  rcases h with rfl | covered
  · exact w.isCovered_afterBuild b {}
  · rw [covered.settled]
    exact covered

/-! ### Requests -/

/-- Nobody is building. -/
theorem Progress.IsAtRest.isIdle {p : Progress} (h : p.IsAtRest) :
    p.isKept = true ∨ p.phase ≠ .loading := by
  rcases h.phase with ⟨kept, -⟩ | ⟨-, unloaded⟩
  · exact Or.inl kept
  · exact Or.inr (by rw [unloaded]; decide)

namespace Operation

variable {w : Workspace} {project : String} {g : Generation} {r : Registration}

/-- A request about a project whose registration is at rest is answered.  If its index was covered
or nothing had been built, it is so afterwards. -/
theorem perform_covers {operation : Operation} (about : operation.subject? = some project)
    (inForce : w.current? project = some g) (known : w.registration? g = some r)
    (atRest : r.progress.IsAtRest) (h : r.progress = {} ∨ r.progress.IsCovered) :
    ∃ answer f, w.perform Workspace.readResource operation = some (answer, w.modify g f) ∧
      (f r.progress = {} ∨ (f r.progress).IsCovered) := by
  have standing := Tenure.standing_of_isIdle inForce known atRest.isUnlocked atRest.isIdle
  have covered := w.isCovered_settled r.binding h
  have locked : (w.settled r.binding r.progress.lock).IsCovered := by
    rw [w.settled_lock]
    exact covered.lock
  have metadata : (w.settled r.binding r.progress.lock).environment =
      (w.settled r.binding r.progress).environment := by
    rw [w.settled_lock]
    rfl
  cases operation with
  | index _ =>
      obtain rfl := Option.some.inj about
      exact ⟨_, _, standing.index, .inr covered⟩
  | mixins _ target =>
      obtain rfl := Option.some.inj about
      exact ⟨_, _, standing.mixins target, .inr covered⟩
  | augmentations _ target =>
      obtain rfl := Option.some.inj about
      exact ⟨_, _, standing.augmentations target, .inr covered⟩
  | metadataChanged _ text =>
      obtain rfl := Option.some.inj about
      cases read : Metadata.ofText text with
      | error failure =>
          refine ⟨.failed failure, id, ?_, h⟩
          rw [w.modify_id]
          exact standing.metadataIgnored read
      | ok new =>
          refine ⟨_, _, standing.metadataChanged read, .inr ?_⟩
          have applied := locked.applyMetadata w r.binding new
          rw [metadata] at applied
          exact applied.unlock
  | metadataRemoved _ =>
      obtain rfl := Option.some.inj about
      refine ⟨_, _, standing.metadataRemoved, .inr ?_⟩
      have dropped := locked.dropMetadata
      rw [metadata] at dropped
      exact dropped.unlock
  | typesChanged _ types =>
      obtain rfl := Option.some.inj about
      exact ⟨_, _, standing.touched types, .inr (locked.retargetTypes w r.binding types).unlock⟩
  | register _ _ | removeProject _ | projects | phase _ | environment _ | tryMixins _ _
  | putFile _ _ _ | removeFile _ _ | declare _ _ | undeclare _ _ => cases about

end Operation

namespace Workspace

/-- Of all registrations in force, nothing has been built or the index is covered. -/
def IsCovered (w : Workspace) : Prop :=
  ∀ project r, w.currentRegistration? project = some r → r.progress = {} ∨ r.progress.IsCovered

/-- A request leaves it so. -/
theorem IsCovered.perform {w v : Workspace} {operation : Operation} {answer : Answer}
    (h : w.IsCovered)
    (atRest : ∀ project r, w.currentRegistration? project = some r → r.progress.IsAtRest)
    (performed : w.perform readResource operation = some (answer, v)) : v.IsCovered := by
  intro project r registered
  cases about : operation.subject? with
  | none =>
      obtain ⟨answer', v', performed', turns⟩ := operation.turns atRest
      obtain rfl := eq_of_perform performed performed'
      have turned := turns project
      generalize before : w.currentRegistration? project = earlier at turned
      rw [registered] at turned
      cases turned with
      | registered b _ => exact .inl rfl
      | settled settles =>
          rw [Operation.settles_eq_true_iff, about] at settles
          cases settles.1
      | same => exact h project r before
  | some subject =>
      cases inForce : w.current? subject with
      | none =>
          obtain rfl := eq_of_perform performed (perform_of_unregistered about inForce)
          exact h project r registered
      | some g =>
          obtain ⟨s, known, -⟩ := w.registry.registered inForce
          replace known : w.registration? g = some s := known
          have here : w.currentRegistration? subject = some s :=
            (congrArg (·.bind w.registration?) inForce).trans known
          obtain ⟨answer', f, performed', covered⟩ := Operation.perform_covers about inForce known
            (atRest subject s here) (h subject s here)
          obtain rfl := eq_of_perform performed performed'
          by_cases same : project = subject
          · subst same
            rw [currentRegistration?_modify_self inForce, here] at registered
            obtain rfl := Option.some.inj registered
            exact covered
          · rw [currentRegistration?_modify_of_ne same inForce] at registered
            exact h project r registered

namespace After

variable {operations : List Operation} {w : Workspace}

/-- So it stays, whatever is asked. -/
theorem isCovered (h : After operations w) : w.IsCovered := by
  induction h with
  | start w =>
      intro project r registered
      cases registered
  | performed after performed ih =>
      exact ih.perform (fun project r registered => (after.tells project).isAtRest registered)
        performed
  | meanwhile after config registry ih =>
      intro project r registered
      rw [currentRegistration?_of_registry registry] at registered
      exact ih project r registered

/-- Whatever has been asked, one request after the other, and whatever has become of sources and
declarations meanwhile: the index of a registered project holds no config that is not declared by
its own mod or a mod of its classpath, as its environment names them.  So each application that is
reported comes from a config that a mod declares.  A project whose index is there is left as it is
by asking for it. -/
theorem configs_declared (h : After operations w) {project : String} {r : Registration}
    (registered : w.currentRegistration? project = some r) :
    ∃ x v e, w.perform readResource (.index project) = some (.index x, v) ∧
      (w.phase project = .loaded → v = w) ∧
      v.environment project = some e ∧
      (∀ config ∈ x.configs, e.Declares config) ∧
      ∀ target, w.perform readResource (.mixins project target) =
          some (.mixins (x.mixinsFor target), v) ∧
        ∀ a ∈ x.mixinsFor target, ∃ config ∈ x.configs,
          a ∈ x.configEntries config ∧ e.Declares config := by
  obtain ⟨g, inForce, known⟩ := Option.bind_eq_some_iff.1 registered
  have atRest := (h.tells project).isAtRest registered
  have standing := Tenure.standing_of_isIdle inForce known atRest.isUnlocked atRest.isIdle
  have covered := w.isCovered_settled r.binding (h.isCovered project r registered)
  refine ⟨_, _, (w.settled r.binding r.progress).environment, standing.index, fun loaded => ?_, ?_,
    fun config held => covered.declares_of_mem_configs held, fun target =>
    ⟨standing.mixins target, fun a reported => ?_⟩⟩
  · rcases atRest.phase with ⟨kept, -⟩ | ⟨-, unloaded⟩
    · exact w.modify_settled known kept
    · have phase : w.phase project = r.progress.phase := by rw [Workspace.phase, registered]
      rw [phase, unloaded] at loaded
      cases loaded
  · rw [environment, currentRegistration?_modify_self inForce, registered]
    rfl
  · obtain ⟨config, held, listed⟩ := covered.exists_config_of_mem_mixinsFor reported
    exact ⟨config, held, listed, covered.declares_of_mem_configs held⟩

end After

/-- A project with two configs, and a library that has one of them too. -/
def overlapping : Workspace where
  sources := .ofList
    [("s", Source.memory "s" (.ofList
      [("fabric.mod.json",
          "\x7b\"schemaVersion\": 1, \"id\": \"m\", \"mixins\": [\"c\", \"d\"]\x7d"),
        ("c", "\x7b\"package\": \"q\", \"mixins\": []\x7d"),
        ("d", "\x7b\"package\": \"q\", \"mixins\": [\"A\"]\x7d")])),
      ("l", Source.memory "l" (.ofList
        [("fabric.mod.json",
            "\x7b\"schemaVersion\": 1, \"id\": \"l\", \"mixins\": [\"c\", \"e\"]\x7d"),
          ("c", "\x7b\"package\": \"q\", \"mixins\": [\"A\"]\x7d")]))]
  catalogues := .ofList [("d", Catalogue.empty.insert (.mixedInto "x.Lamp" "q.A"))]

/-- The project gives up the config that the library has too, and the one of the library that cannot
be read is not there either.  What is left is declared. -/
theorem After.configs_declared_overlapping :
    ∃ w x e, After [.register "p" ⟨"s", ["l"], "d"⟩, .metadataChanged "p"
        "\x7b\"schemaVersion\": 1, \"id\": \"m\", \"mixins\": [\"d\"]\x7d"] w ∧
      (w.currentRegistration? "p").isSome = true ∧
      w.perform readResource (.index "p") = some (.index x, w) ∧
      w.environment "p" = some e ∧ x.configs = ["d"] ∧ e.Declares "d" ∧
      x.mixinsFor ⟨"x.Lamp"⟩ = [⟨⟨"x.Lamp"⟩, ⟨"q.A"⟩⟩] := by
  have registered : After [.register "p" ⟨"s", ["l"], "d"⟩]
      (overlapping.register "p" ⟨"s", ["l"], "d"⟩) := (After.start overlapping).performed rfl
  have ran : ((overlapping.register "p" ⟨"s", ["l"], "d"⟩).perform readResource
      (.metadataChanged "p"
        "\x7b\"schemaVersion\": 1, \"id\": \"m\", \"mixins\": [\"d\"]\x7d")).any
      (fun outcome => outcome.2.phase "p" = .loaded ∧
        ((outcome.2.perform readResource (.index "p")).any fun asked => match asked.1 with
          | .index x => x.configs = ["d"] ∧ x.mixinsFor ⟨"x.Lamp"⟩ = [⟨⟨"x.Lamp"⟩, ⟨"q.A"⟩⟩]
          | _ => false) = true) = true := by
    decide +kernel
  obtain ⟨⟨answer, w⟩, performed, facts⟩ := (Option.any_eq_true _ _).1 ran
  obtain ⟨loaded, asked⟩ := of_decide_eq_true facts
  have after := registered.performed performed
  cases current : w.currentRegistration? "p" with
  | none =>
      rw [phase, current] at loaded
      cases loaded
  | some r =>
      obtain ⟨x, v, e, index, same, environment, declared, -⟩ := after.configs_declared current
      obtain rfl := same loaded
      rw [index] at asked
      obtain ⟨configs, mixins⟩ := of_decide_eq_true asked
      have held : "d" ∈ x.configs := by
        rw [configs]
        exact List.mem_cons_self
      exact ⟨v, x, e, after, by rw [current]; rfl, index, environment, configs,
        declared "d" held, mixins⟩

end Workspace

end MixinIndex
