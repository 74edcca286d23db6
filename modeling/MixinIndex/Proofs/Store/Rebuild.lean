import MixinIndex.Proofs.Store.Standing

/-!
# Events and rebuilds

Metadata and declarations of a registered project change, and its index is kept up to date by
events.  However many there are, the index is the one that a new registration would build from
what is there in the end.

## Main definitions

* `Tenure.Undisturbed`: what may happen between events
* `Tenure.Run`: the workspaces that events lead to, with the metadata file as last announced
* `Tenure.Upkeep`: what events preserve

## Main statements

* `Tenure.Run.upkeep`: an index that is complete represents what the binding contributes now
* `Tenure.Run.index_eq_rebuild`: the index is that of a new registration

## Design notes

Events belong to a metadata file as announced, which need not be the file as it reads: once the
index is built, nothing reads the file any more.  The configs that the own mod ever declares are
given by their names beforehand, and none of them is declared by a mod of the classpath.
-/

namespace MixinIndex

namespace Tenure

variable (t : Tenure)

/-! ### What happens to a registration -/

/-- The configs that the metadata in a file declares are among those that the own mod declares. -/
def Declares (file : Option String) : Prop :=
  ∀ name ∈ Metadata.configsOf (Metadata.ofText? file), t.own name

/-- None of the configs that the own mod ever declares is declared by a mod of the classpath. -/
def Apart (w : Workspace) : Prop :=
  ∀ name, t.own name → ∀ mod ∈ w.classpathMods t.binding, name ∉ mod.metadata.configs

/-- What may happen between events: the registration stays in force and as it is, all files read
as before, the metadata file of the own mod apart, and only some types change their
declarations. -/
structure Undisturbed (types : List TypeName) (w v : Workspace) : Prop where
  current : v.current? t.project = w.current? t.project
  registration : v.registration? t.generation = w.registration? t.generation
  alike : w.Alike v t.binding t.own
  declarations : ∀ type, type ∉ types →
    (v.catalogue t.binding.declarations).find? type =
      (w.catalogue t.binding.declarations).find? type

/-- Before the index is built, the metadata file of the own mod is as announced. -/
def AsAnnounced (w : Workspace) (file : Option String) : Prop :=
  w.phase t.project = .unloaded → w.ownFile t.binding = file

/-- The workspaces that events lead to, with the metadata file as last announced: as it was when
the project was registered, with the text of the last event that makes sense, or absent. -/
inductive Run : Workspace → Option String → Prop
  /-- The project is registered. -/
  | registered {w : Workspace} (begins : t.Begins w) (apart : t.Apart w)
      (declares : t.Declares (w.ownFile t.binding)) : Run w (w.ownFile t.binding)
  /-- Something else happens. -/
  | meanwhile {w v : Workspace} {file : Option String} (run : Run w file)
      (undisturbed : t.Undisturbed [] w v) (announced : t.AsAnnounced v file) : Run v file
  /-- The index is asked for. -/
  | asked {w v : Workspace} {file : Option String} {answer : Answer} (run : Run w file)
      (performed : w.perform Workspace.readResource (.index t.project) = some (answer, v)) :
      Run v file
  /-- A metadata event, with the metadata file already changed or not. -/
  | metadataChanged {w v u : Workspace} {file : Option String} {text : String} {new : Metadata}
      {answer : Answer} (run : Run w file) (undisturbed : t.Undisturbed [] w v)
      (found : t.Declares (v.ownFile t.binding)) (declares : t.Declares (some text))
      (meaningful : Metadata.ofText text = .ok new)
      (performed : v.perform Workspace.readResource (.metadataChanged t.project text) =
        some (answer, u)) : Run u (some text)
  /-- A metadata event with a text that makes no sense. -/
  | metadataIgnored {w v : Workspace} {file : Option String} {text : String} {failure : Failure}
      {answer : Answer} (run : Run w file) (meaningless : Metadata.ofText text = .error failure)
      (performed : w.perform Workspace.readResource (.metadataChanged t.project text) =
        some (answer, v)) : Run v file
  /-- The metadata file is removed, or will be. -/
  | metadataRemoved {w v u : Workspace} {file : Option String} {answer : Answer}
      (run : Run w file) (undisturbed : t.Undisturbed [] w v)
      (found : t.Declares (v.ownFile t.binding))
      (performed : v.perform Workspace.readResource (.metadataRemoved t.project) =
        some (answer, u)) : Run u none
  /-- Declarations change, and an event lists all types concerned. -/
  | typesChanged {w v u : Workspace} {file : Option String} {types : List TypeName}
      {answer : Answer} (run : Run w file) (undisturbed : t.Undisturbed types w v)
      (announced : t.AsAnnounced v file)
      (performed : v.perform Workspace.readResource (.typesChanged t.project types) =
        some (answer, u)) : Run u file

/-! ### What events preserve -/

/-- Nothing has been built yet, and the metadata file is as announced; or the index represents
what the binding contributes with this file. -/
def UpToDate (w : Workspace) (file : Option String) (p : Progress) : Prop :=
  p.isKept = false ∧ p.phase = .unloaded ∧ w.ownFile t.binding = file ∨
    p.Built (w.environmentWith t.binding (Metadata.ofText? file))
      (w.contributionsWith t.binding (Metadata.ofText? file))

/-- What events preserve. -/
structure Upkeep (w : Workspace) (file : Option String) (p : Progress) : Prop
    extends t.Standing w p where
  apart : t.Apart w
  declares : t.Declares file
  upToDate : t.UpToDate w file p

namespace Upkeep

variable {t} {w v : Workspace} {file : Option String} {p : Progress}

/-- Building if necessary brings the index up to date. -/
theorem settled (h : t.Upkeep w file p) :
    (w.settled t.binding p).Built (w.environmentWith t.binding (Metadata.ofText? file))
      (w.contributionsWith t.binding (Metadata.ofText? file)) := by
  rcases h.upToDate with ⟨unkept, -, rfl⟩ | built
  · have build : w.settled t.binding p = w.afterBuild t.binding p := by
      rw [Workspace.settled, unkept]
      rfl
    rw [build]
    exact w.built_afterBuild t.binding p
  · rw [built.settled]
    exact built

end Upkeep

theorem Begins.upkeep {t : Tenure} {w : Workspace} (h : t.Begins w) (apart : t.Apart w)
    (declares : t.Declares (w.ownFile t.binding)) :
    t.Upkeep w (w.ownFile t.binding) {} where
  toStanding := h.standing
  apart := apart
  declares := declares
  upToDate := Or.inl ⟨rfl, rfl, rfl⟩

theorem Undisturbed.refl (w : Workspace) : t.Undisturbed [] w w :=
  ⟨rfl, rfl, Workspace.Alike.refl w t.binding t.own, fun _ _ => rfl⟩

namespace Undisturbed

variable {t} {types : List TypeName} {w v : Workspace} {file : Option String} {p : Progress}

theorem apart (h : t.Undisturbed types w v) (apart : t.Apart w) : t.Apart v := by
  intro name own
  rw [h.alike.classpathMods]
  exact apart name own

theorem environmentWith (h : t.Undisturbed types w v) (metadata : Option Metadata) :
    v.environmentWith t.binding metadata = w.environmentWith t.binding metadata := by
  rw [Workspace.environmentWith, Workspace.environmentWith, h.alike.classpathMods]

theorem standing (h : t.Undisturbed types w v) (standing : t.Standing w p) : t.Standing v p where
  current := h.current.trans standing.current
  registration := h.registration.trans standing.registration
  isUnlocked := standing.isUnlocked
  isIdle := standing.isIdle

/-- Where only some types have changed their declarations, pointing them at their new targets
brings a complete index up to date. -/
theorem settled (h : t.Undisturbed types w v) (upkeep : t.Upkeep w file p)
    (announced : t.AsAnnounced v file) :
    ∃ m, (v.settled t.binding p).Built (v.environmentWith t.binding (Metadata.ofText? file)) m ∧
      m.retargetTypes (v.targetsOf t.binding.declarations) types =
        v.contributionsWith t.binding (Metadata.ofText? file) := by
  rcases upkeep.upToDate with ⟨unkept, unloaded, -⟩ | built
  · -- the event itself brings about the first build, from what is there now
    have found : v.ownFile t.binding = file :=
      announced ((h.standing upkeep.toStanding).phase.trans unloaded)
    have build : v.settled t.binding p = v.afterBuild t.binding p := by
      rw [Workspace.settled, unkept]
      rfl
    have same := Workspace.Alike.refl v t.binding t.own
    refine ⟨_, ?_, same.retargetTypes_contributionsWith types (fun _ _ => rfl) upkeep.declares⟩
    rw [build, ← found]
    exact v.built_afterBuild t.binding p
  · -- the index was built from the old declarations
    refine ⟨_, ?_, h.alike.retargetTypes_contributionsWith types h.declarations upkeep.declares⟩
    rw [built.settled, h.environmentWith]
    exact built

/-- What is not changed is still up to date. -/
theorem upkeep (h : t.Undisturbed [] w v) (upkeep : t.Upkeep w file p)
    (announced : t.AsAnnounced v file) : t.Upkeep v file p where
  toStanding := h.standing upkeep.toStanding
  apart := h.apart upkeep.apart
  declares := upkeep.declares
  upToDate := by
    rcases upkeep.upToDate with ⟨unkept, unloaded, -⟩ | built
    · exact Or.inl ⟨unkept, unloaded,
        announced ((h.standing upkeep.toStanding).phase.trans unloaded)⟩
    · refine Or.inr ?_
      rw [h.environmentWith, h.alike.contributionsWith
        (fun type => h.declarations type List.not_mem_nil) upkeep.declares]
      exact built

/-- The metadata file may have changed before its event comes. -/
theorem upkeep_of_declares (h : t.Undisturbed [] w v) (upkeep : t.Upkeep w file p)
    (declares : t.Declares (v.ownFile t.binding)) : ∃ found, t.Upkeep v found p := by
  rcases upkeep.upToDate with ⟨unkept, unloaded, -⟩ | built
  · exact ⟨v.ownFile t.binding, h.standing upkeep.toStanding, h.apart upkeep.apart, declares,
      Or.inl ⟨unkept, unloaded, rfl⟩⟩
  · refine ⟨file, h.upkeep upkeep fun unloaded => ?_⟩
    rw [(h.standing upkeep.toStanding).phase, built.phase] at unloaded
    cases unloaded

end Undisturbed

/-! ### Each event -/

namespace Upkeep

variable {t} {w v : Workspace} {file : Option String} {p : Progress}

/-- An event that leaves a complete index leaves it up to date. -/
theorem afterEvent (h : t.Standing w p) {f : Progress → Progress} {file : Option String}
    (apart : t.Apart w) (declares : t.Declares file)
    (built : (f (w.settled t.binding p).lock).Built
      (w.environmentWith t.binding (Metadata.ofText? file))
      (w.contributionsWith t.binding (Metadata.ofText? file))) :
    t.Upkeep (t.afterEvent w f) file (t.progressAfter w f p) where
  toStanding := h.afterEvent built.isKept
  apart := apart
  declares := declares
  upToDate := Or.inr built.unlock

theorem asked (h : t.Upkeep w file p) :
    t.Upkeep (w.modify t.generation (w.settled t.binding)) file (w.settled t.binding p) where
  toStanding := h.toStanding.asked
  apart := h.apart
  declares := h.declares
  upToDate := Or.inr h.settled

theorem projectMetadata (h : t.Upkeep w file p) :
    (w.settled t.binding p).environment.projectMetadata = Metadata.ofText? file := by
  rw [h.settled.environment, Workspace.projectMetadata_environmentWith]

theorem metadataChanged (h : t.Upkeep w file p) {text : String} {new : Metadata}
    (read : Metadata.ofText text = .ok new) (declares : t.Declares (some text)) :
    let v := t.afterEvent w (w.applyMetadata t.binding new (t.diff w p new))
    ∃ q, t.Upkeep v (some text) q := by
  have found : Metadata.ofText? (some text) = some new := by
    rw [Metadata.ofText?, Option.bind_some, read]
    rfl
  -- neither the old configs of the own mod nor the new ones are declared on the classpath
  have apart (k : String) (named : k ∈ Metadata.configsOf (Metadata.ofText? file) ∨
      k ∈ new.configs) : ∀ mod ∈ w.classpathMods t.binding, k ∉ mod.metadata.configs := by
    rcases named with before | after
    · exact h.apart k (h.declares k before)
    · refine h.apart k (declares k ?_)
      rw [found]
      exact after
  have known : t.diff w p new = new.diffFrom (Metadata.ofText? file) := by
    rw [diff, h.projectMetadata]
  refine ⟨_, .afterEvent h.toStanding h.apart declares ?_⟩
  rw [found, ← w.contributionsWith_update t.binding (Metadata.ofText? file) new apart, ← known]
  exact h.settled.lock.applyMetadata w t.binding new (t.diff w p new)

theorem metadataRemoved (h : t.Upkeep w file p) :
    let configs := (w.settled t.binding p).environment.projectConfigs
    ∃ q, t.Upkeep (t.afterEvent w (Progress.dropMetadata configs)) none q := by
  have declares : t.Declares none := fun k named => absurd named Std.ExtTreeSet.not_mem_empty
  refine ⟨_, .afterEvent h.toStanding h.apart declares ?_⟩
  rw [Environment.projectConfigs, h.projectMetadata]
  have removed := w.contributionsWith_remove t.binding (Metadata.ofText? file)
    fun k named => h.apart k (h.declares k named)
  have dropped := h.settled.lock.dropMetadata (Metadata.configsOf (Metadata.ofText? file))
  rw [removed] at dropped
  exact dropped

theorem typesChanged (h : t.Upkeep w file p) {types : List TypeName}
    (undisturbed : t.Undisturbed types w v) (announced : t.AsAnnounced v file) :
    ∃ q, t.Upkeep (t.afterEvent v (v.retargetTypes t.binding types)) file q := by
  obtain ⟨m, settled, moved⟩ := undisturbed.settled h announced
  have retargeted := settled.lock.modifyIndex (fun x => x.isLoaded_retargetTypes _ _)
    (fun represents => represents.retargetTypes (v.targetsOf t.binding.declarations) types)
  rw [moved] at retargeted
  exact ⟨_, .afterEvent (undisturbed.standing h.toStanding) (undisturbed.apart h.apart)
    h.declares retargeted⟩

end Upkeep

/-! ### All events -/

variable {t} {w : Workspace} {file : Option String}

/-- Whatever events lead to a workspace, its index is up to date with the metadata file as last
announced. -/
theorem Run.upkeep (run : t.Run w file) : ∃ p, t.Upkeep w file p := by
  induction run with
  | registered begins apart declares => exact ⟨{}, begins.upkeep apart declares⟩
  | meanwhile _ undisturbed announced ih =>
      obtain ⟨p, upkeep⟩ := ih
      exact ⟨p, undisturbed.upkeep upkeep announced⟩
  | asked _ performed ih =>
      obtain ⟨p, upkeep⟩ := ih
      obtain rfl := Workspace.eq_of_perform upkeep.index performed
      exact ⟨_, upkeep.asked⟩
  | metadataChanged _ undisturbed found declares meaningful performed ih =>
      obtain ⟨p, before⟩ := ih
      obtain ⟨found, upkeep⟩ := undisturbed.upkeep_of_declares before found
      obtain rfl := Workspace.eq_of_perform (upkeep.toStanding.metadataChanged meaningful) performed
      exact upkeep.metadataChanged meaningful declares
  | metadataIgnored _ meaningless performed ih =>
      obtain ⟨p, upkeep⟩ := ih
      obtain rfl := Workspace.eq_of_perform (upkeep.metadataIgnored meaningless) performed
      exact ⟨p, upkeep⟩
  | metadataRemoved _ undisturbed found performed ih =>
      obtain ⟨p, before⟩ := ih
      obtain ⟨found, upkeep⟩ := undisturbed.upkeep_of_declares before found
      obtain rfl := Workspace.eq_of_perform upkeep.toStanding.metadataRemoved performed
      exact upkeep.metadataRemoved
  | typesChanged _ undisturbed announced performed ih =>
      obtain ⟨p, upkeep⟩ := ih
      obtain ⟨answer, event⟩ := (undisturbed.standing upkeep.toStanding).typesChanged _
      obtain rfl := Workspace.eq_of_perform event performed
      exact upkeep.typesChanged undisturbed announced

/-- No event gets stuck.  After any events the index is the one that a new registration builds
where classpath, configs and declarations are the same, and the metadata file is as last
announced. -/
theorem Run.index_eq_rebuild (run : t.Run w file) :
    (∀ types v, t.Undisturbed types w v →
      (∀ text,
        (v.perform Workspace.readResource (.metadataChanged t.project text)).isSome = true) ∧
      (v.perform Workspace.readResource (.metadataRemoved t.project)).isSome = true ∧
      (v.perform Workspace.readResource (.typesChanged t.project types)).isSome = true) ∧
    ∃ x w', w.perform Workspace.readResource (.index t.project) = some (.index x, w') ∧
      ∀ (v : Workspace) (project : String), w.Alike v t.binding t.own →
        (∀ type, (v.catalogue t.binding.declarations).find? type =
          (w.catalogue t.binding.declarations).find? type) →
        v.ownFile t.binding = file →
        ∃ v', (v.register project t.binding).perform Workspace.readResource (.index project) =
          some (.index x, v') := by
  obtain ⟨p, upkeep⟩ := run.upkeep
  refine ⟨fun types v undisturbed => ⟨fun text => ?_, ?_, ?_⟩, _, _, upkeep.index,
    fun v project alike declarations found => ?_⟩
  · have standing := undisturbed.standing upkeep.toStanding
    cases read : Metadata.ofText text with
    | error failure =>
        rw [standing.metadataIgnored read]
        rfl
    | ok new =>
        rw [standing.metadataChanged read]
        rfl
  · rw [(undisturbed.standing upkeep.toStanding).metadataRemoved]
    rfl
  · obtain ⟨answer, event⟩ := (undisturbed.standing upkeep.toStanding).typesChanged types
    rw [event]
    rfl
  · -- the new registration is up to date as well, and represents the same contributions
    have apart : (ofRegister v project t.binding t.own).Apart (v.register project t.binding) := by
      intro name own mod member
      refine upkeep.apart name own mod ?_
      rw [← alike.classpathMods]
      exact member
    have fresh := (begins_register v project t.binding t.own).upkeep apart
      (found ▸ upkeep.declares)
    have represents : ((v.register project t.binding).settled t.binding {}).index.Represents
        ((v.register project t.binding).contributionsWith t.binding
          (Metadata.ofText? ((v.register project t.binding).ownFile t.binding))) :=
      fresh.settled.represents
    have same : (v.register project t.binding).contributionsWith t.binding
        (Metadata.ofText? ((v.register project t.binding).ownFile t.binding)) =
          w.contributionsWith t.binding (Metadata.ofText? file) := by
      rw [← alike.contributionsWith declarations upkeep.declares, ← found]
      rfl
    rw [same] at represents
    have rebuilt := represents.unique upkeep.settled.represents
      (fresh.settled.isLoaded.trans upkeep.settled.isLoaded.symm)
    have answer := congrArg Answer.index rebuilt
    exact ⟨_, fresh.index.trans (congrArg (fun answer => some (answer, _)) answer)⟩

/-- A metadata file that declares one config. -/
def declaringOne : String :=
  "\x7b\"schemaVersion\": 1, \"id\": \"m\", \"mixins\": [\"c\"]\x7d"

/-- A project that has a config which nobody declares yet. -/
def undeclared : Workspace where
  sources := .ofList [("s", Source.memory "s" (.ofList
    [("c", "\x7b\"package\": \"q\", \"mixins\": [\"A\"]\x7d")]))]

theorem index_eq_rebuild_declaringOne :
    ∃ (w w' : Workspace) (x : Index),
      (ofRegister undeclared "p" ⟨"s", [], "d"⟩ (· = "c")).Run w (some declaringOne) ∧
        w.perform Workspace.readResource (.index "p") = some (.index x, w') := by
  have found : (ofRegister undeclared "p" ⟨"s", [], "d"⟩ (· = "c")).Declares
      ((undeclared.register "p" ⟨"s", [], "d"⟩).ownFile ⟨"s", [], "d"⟩) := by
    have absent : (undeclared.register "p" ⟨"s", [], "d"⟩).ownFile ⟨"s", [], "d"⟩ = none := by
      decide +kernel
    rw [absent]
    exact fun k named => absurd named Std.ExtTreeSet.not_mem_empty
  have declares : (ofRegister undeclared "p" ⟨"s", [], "d"⟩ (· = "c")).Declares
      (some declaringOne) := by
    have names : (Metadata.configsOf (Metadata.ofText? (some declaringOne))).toList = ["c"] := by
      decide +kernel
    intro k named
    rw [← Std.ExtTreeSet.mem_toList, names] at named
    exact List.mem_singleton.1 named
  have registered := Run.registered (begins_register undeclared "p" ⟨"s", [], "d"⟩ (· = "c"))
    (fun name own mod member => absurd member List.not_mem_nil) found
  have undisturbed := Undisturbed.refl (ofRegister undeclared "p" ⟨"s", [], "d"⟩ (· = "c"))
    (undeclared.register "p" ⟨"s", [], "d"⟩)
  have answered := (registered.index_eq_rebuild.1 [] _ undisturbed).1 declaringOne
  obtain ⟨⟨answer, w⟩, performed⟩ := Option.isSome_iff_exists.1 answered
  cases read : Metadata.ofText declaringOne with
  | error failure =>
      have meaningful : (Metadata.ofText declaringOne).isOk = true := by decide +kernel
      rw [read] at meaningful
      cases meaningful
  | ok new =>
      have run := Run.metadataChanged registered undisturbed found declares read performed
      obtain ⟨-, x, w', index, -⟩ := run.index_eq_rebuild
      exact ⟨w, w', x, run, index⟩

end Tenure

end MixinIndex
