import MixinIndex.Proofs.Store.Standing

/-!
# Who holds a config

An index knows configs by their names alone, while mods are read one by one.  Of several mods that
declare a config of one name, only one holds it: the one whose file was read last.  A mod that does
not hold a config has its contribution reported only as far as others contribute the same.

## Main definitions

* `Holding`: a config as it was last read, with the source that it came from
* `Ledger`: the holdings by config
* `Tenure.Held`: what metadata events lead to, with the ledger that they keep
* `Tenure.Separate`: no config name is declared by two mods

## Main statements

* `Tenure.Held.reported`: exactly what is held is reported
* `Tenure.Holds.owned`: where names are separate, every mod holds its configs

## Design notes

Files may change as they like while events come, except those that are taken to be fixed; what is
said about a contribution is said about fixed files.
-/

namespace MixinIndex

/-- A config as it was last read: the source that it came from, and what it contributed. -/
structure Holding where
  source : String
  contribution : Contribution

/-- The holdings by config. -/
abbrev Ledger := Std.ExtTreeMap String Holding

namespace Ledger

/-- What all holdings contribute. -/
def contributions (l : Ledger) : Contributions := l.map fun _ h => h.contribution

/-- Strike out configs. -/
def strike (l : Ledger) (configs : List String) : Ledger :=
  configs.foldl (fun l config => l.erase config) l

/-- Enter what was read of a config, if it could be read. -/
def enter (l : Ledger) (source config : String) : Option Contribution → Ledger
  | some c => l.insert config ⟨source, c⟩
  | none => l

theorem getElem?_contributions (l : Ledger) (config : String) :
    l.contributions[config]? = l[config]?.map Holding.contribution :=
  Std.ExtTreeMap.getElem?_map

theorem contributions_strike (l : Ledger) (configs : List String) :
    (l.strike configs).contributions = configs.foldl Contributions.remove l.contributions := by
  induction configs generalizing l with
  | nil => rfl
  | cons config configs ih =>
      refine (ih (l.erase config)).trans (congrArg (configs.foldl Contributions.remove) ?_)
      refine Std.ExtTreeMap.ext_getElem? fun {k} => ?_
      rw [getElem?_contributions, Contributions.remove, Std.ExtTreeMap.getElem?_erase,
        Std.ExtTreeMap.getElem?_erase, getElem?_contributions]
      split <;> rfl

theorem contributions_enter (l : Ledger) (source config : String) (c : Option Contribution) :
    (l.enter source config c).contributions = l.contributions.load config c := by
  cases c with
  | none => rfl
  | some c =>
      refine Std.ExtTreeMap.ext_getElem? fun {k} => ?_
      rw [getElem?_contributions, enter, Contributions.load, Std.ExtTreeMap.getElem?_insert,
        Std.ExtTreeMap.getElem?_insert, getElem?_contributions]
      split <;> rfl

theorem getElem?_strike (l : Ledger) (configs : List String) (k : String) :
    (l.strike configs)[k]? = if k ∈ configs then none else l[k]? := by
  induction configs generalizing l with
  | nil => simp [strike]
  | cons config configs ih =>
      refine (ih (l.erase config)).trans ?_
      simp only [Std.ExtTreeMap.getElem?_erase, List.mem_cons, Std.LawfulEqCmp.compare_eq_iff_eq]
      by_cases same : k = config
      · simp [same]
      · simp [same, Ne.symm same]

theorem getElem?_enter (l : Ledger) (source config k : String) (c : Option Contribution) :
    (l.enter source config c)[k]? =
      if k = config then (c.map (Holding.mk source)).or l[k]? else l[k]? := by
  cases c with
  | none => simp [enter]
  | some c =>
      rw [enter, Std.ExtTreeMap.getElem?_insert]
      simp only [Std.LawfulEqCmp.compare_eq_iff_eq, Option.map_some, Option.some_or]
      by_cases same : k = config
      · simp [same]
      · simp [same, Ne.symm same]

/-- What the holdings from fixed files contributed, they contribute now. -/
def Faithful (fixed : String → String → Prop) (w : Workspace) (declarations : String)
    (l : Ledger) : Prop :=
  ∀ (k : String) (h : Holding), l[k]? = some h → fixed h.source k →
    w.contribution? declarations h.source k = some h.contribution

end Ledger

namespace Workspace

variable (w : Workspace)

/-- Enter configs of a source, as they read now. -/
def enterConfigs (declarations source : String) (configs : List String) (l : Ledger) : Ledger :=
  configs.foldl (fun l config =>
    l.enter source config (w.contribution? declarations source config)) l

/-- Enter the configs of mods, as they read now. -/
def enterMods (declarations : String) (mods : List LoadedMod) (l : Ledger) : Ledger :=
  mods.foldl (fun l mod =>
    w.enterConfigs declarations mod.source mod.metadata.configs.toList l) l

theorem contributions_enterConfigs (declarations source : String) (configs : List String)
    (l : Ledger) : (w.enterConfigs declarations source configs l).contributions =
      w.contributeConfigs declarations source configs l.contributions := by
  induction configs generalizing l with
  | nil => rfl
  | cons config configs ih =>
      refine (ih _).trans ?_
      rw [Ledger.contributions_enter]
      rfl

theorem contributions_enterMods (declarations : String) (mods : List LoadedMod) (l : Ledger) :
    (w.enterMods declarations mods l).contributions =
      w.contributeMods declarations mods l.contributions := by
  induction mods generalizing l with
  | nil => rfl
  | cons mod mods ih =>
      refine (ih _).trans ?_
      rw [contributions_enterConfigs]
      rfl

theorem getElem?_enterConfigs (declarations source : String) (configs : List String)
    (l : Ledger) (k : String) :
    (w.enterConfigs declarations source configs l)[k]? =
      if k ∈ configs then
        ((w.contribution? declarations source k).map (Holding.mk source)).or l[k]?
      else l[k]? := by
  induction configs generalizing l with
  | nil => simp [enterConfigs]
  | cons config configs ih =>
      refine (ih _).trans ?_
      simp only [Ledger.getElem?_enter, List.mem_cons]
      by_cases same : k = config
      · subst same
        cases w.contribution? declarations source k <;> simp
      · simp [same]

/-- Mods that do not declare a config leave its holding alone. -/
theorem getElem?_enterMods_of_undeclared (declarations : String) {mods : List LoadedMod}
    {k : String} (undeclared : ∀ mod ∈ mods, k ∉ mod.metadata.configs) (l : Ledger) :
    (w.enterMods declarations mods l)[k]? = l[k]? := by
  induction mods generalizing l with
  | nil => rfl
  | cons mod mods ih =>
      have here : k ∉ mod.metadata.configs.toList := fun declared =>
        undeclared mod List.mem_cons_self (Std.ExtTreeSet.mem_toList.1 declared)
      refine (ih (fun other member => undeclared other (List.mem_cons_of_mem _ member)) _).trans ?_
      rw [getElem?_enterConfigs, if_neg here]

/-- A config that is declared from one source only is held from there. -/
theorem getElem?_enterMods (declarations : String) {mods : List LoadedMod} {source k : String}
    {c : Contribution} (separate : ∀ mod ∈ mods, k ∈ mod.metadata.configs → mod.source = source)
    (declared : ∃ mod ∈ mods, k ∈ mod.metadata.configs)
    (read : w.contribution? declarations source k = some c) (l : Ledger) :
    (w.enterMods declarations mods l)[k]? = some ⟨source, c⟩ := by
  induction mods generalizing l with
  | nil =>
      obtain ⟨mod, member, -⟩ := declared
      cases member
  | cons mod mods ih =>
      by_cases later : ∃ mod ∈ mods, k ∈ mod.metadata.configs
      · exact ih (fun n member => separate n (List.mem_cons_of_mem _ member)) later _
      · -- then it is the first mod that declares the config, and nobody replaces it
        have others : ∀ n ∈ mods, k ∉ n.metadata.configs :=
          fun n member named => later ⟨n, member, named⟩
        obtain ⟨n, member, named⟩ := declared
        obtain rfl : n = mod := by
          rcases List.mem_cons.1 member with here | there
          · exact here
          · exact absurd named (others n there)
        refine (w.getElem?_enterMods_of_undeclared declarations others _).trans ?_
        rw [getElem?_enterConfigs, if_pos (Std.ExtTreeSet.mem_toList.2 named),
          separate n List.mem_cons_self named, read]
        rfl

end Workspace

namespace Ledger.Faithful

variable {fixed : String → String → Prop} {w : Workspace} {declarations : String} {l : Ledger}

theorem empty : Faithful fixed w declarations ∅ := by
  intro k h held
  rw [Std.ExtTreeMap.getElem?_empty] at held
  cases held

theorem strike (before : l.Faithful fixed w declarations) (configs : List String) :
    (l.strike configs).Faithful fixed w declarations := by
  intro k h held isFixed
  rw [getElem?_strike] at held
  by_cases named : k ∈ configs
  · rw [if_pos named] at held
    cases held
  · rw [if_neg named] at held
    exact before k h held isFixed

/-- Reading a config enters what it contributes now. -/
theorem enterConfigs (before : l.Faithful fixed w declarations) (source : String)
    (configs : List String) :
    (w.enterConfigs declarations source configs l).Faithful fixed w declarations := by
  intro k h held isFixed
  rw [Workspace.getElem?_enterConfigs] at held
  by_cases named : k ∈ configs
  · rw [if_pos named] at held
    cases read : w.contribution? declarations source k with
    | none =>
        rw [read] at held
        exact before k h held isFixed
    | some c =>
        rw [read, Option.map_some, Option.some_or, Option.some.injEq] at held
        subst held
        exact read
  · rw [if_neg named] at held
    exact before k h held isFixed

theorem enterMods (before : l.Faithful fixed w declarations) (mods : List LoadedMod) :
    (w.enterMods declarations mods l).Faithful fixed w declarations := by
  induction mods generalizing l with
  | nil => exact before
  | cons mod mods ih => exact ih (before.enterConfigs mod.source _)

end Ledger.Faithful

/-! ### What metadata events lead to -/

namespace Tenure

variable (t : Tenure)

/-- What may happen between events once the index is built: the registration stays in force and as
it is, no type changes its declaration, and some files stay as they are. -/
structure Unaffected (fixed : String → String → Prop) (w v : Workspace) : Prop where
  config : v.config = w.config
  current : v.current? t.project = w.current? t.project
  registration : v.registration? t.generation = w.registration? t.generation
  declarations : ∀ type, (v.catalogue t.binding.declarations).find? type =
    (w.catalogue t.binding.declarations).find? type
  fixed : ∀ source path, fixed source path → v.text? source path = w.text? source path

/-- The metadata of the own mod, as far as it is known. -/
def knownMetadata (w : Workspace) : Option Metadata :=
  (w.environment t.project).bind (·.projectMetadata)

/-- The workspaces that metadata events lead to after the first build, with the ledger that they
keep: a build enters all mods in order, and an event strikes out the configs that go and enters
those that come. -/
inductive Held (fixed : String → String → Prop) : Workspace → Ledger → Prop
  /-- The index is built. -/
  | built {w v : Workspace} {answer : Answer} (begins : t.Begins w)
      (declares : ∀ k ∈ Metadata.configsOf (Metadata.ofText? (w.ownFile t.binding)), t.own k)
      (performed : w.perform Workspace.readResource (.index t.project) = some (answer, v)) :
      Held fixed v (w.enterMods t.binding.declarations (w.environmentOf t.binding).mods ∅)
  /-- Something else happens. -/
  | meanwhile {w v : Workspace} {l : Ledger} (held : Held fixed w l)
      (unaffected : t.Unaffected fixed w v) : Held fixed v l
  /-- A metadata event. -/
  | metadataChanged {w v : Workspace} {l : Ledger} {text : String} {new : Metadata}
      {answer : Answer} (held : Held fixed w l) (meaningful : Metadata.ofText text = .ok new)
      (declares : ∀ k ∈ new.configs, t.own k)
      (performed : w.perform Workspace.readResource (.metadataChanged t.project text) =
        some (answer, v)) :
      Held fixed v (w.enterConfigs t.binding.declarations t.binding.source
        (new.diffFrom (t.knownMetadata w)).added.toList
        (l.strike (new.diffFrom (t.knownMetadata w)).removed.toList))
  /-- A metadata event with a text that makes no sense. -/
  | metadataIgnored {w v : Workspace} {l : Ledger} {text : String} {failure : Failure}
      {answer : Answer} (held : Held fixed w l)
      (meaningless : Metadata.ofText text = .error failure)
      (performed : w.perform Workspace.readResource (.metadataChanged t.project text) =
        some (answer, v)) : Held fixed v l
  /-- The metadata file is removed. -/
  | metadataRemoved {w v : Workspace} {l : Ledger} {answer : Answer} (held : Held fixed w l)
      (performed : w.perform Workspace.readResource (.metadataRemoved t.project) =
        some (answer, v)) :
      Held fixed v (l.strike (Metadata.configsOf (t.knownMetadata w)).toList)

/-- The names of configs are separate: the own mod shares none with the classpath, and no two
sources of the classpath share one. -/
structure Separate (classpath : List LoadedMod) : Prop where
  own : ∀ k, t.own k → ∀ mod ∈ classpath, k ∉ mod.metadata.configs
  classpath : ∀ m ∈ classpath, ∀ n ∈ classpath, ∀ k ∈ m.metadata.configs,
    k ∈ n.metadata.configs → m.source = n.source

/-- Every mod holds what can be read of its configs, as far as their files are fixed. -/
def Owned (fixed : String → String → Prop) (w : Workspace) (environment : Environment)
    (l : Ledger) : Prop :=
  ∀ mod ∈ environment.mods, ∀ k ∈ mod.metadata.configs, fixed mod.source k →
    ∀ c, w.contribution? t.binding.declarations mod.source k = some c →
      l[k]? = some ⟨mod.source, c⟩

/-- What metadata events preserve. -/
structure Holds (fixed : String → String → Prop) (w : Workspace) (l : Ledger) (p : Progress) :
    Prop extends t.Standing w p where
  built : p.Built p.environment l.contributions
  own : ∀ mod, p.environment.project = some mod →
    mod.source = t.binding.source ∧ ∀ k ∈ mod.metadata.configs, t.own k
  faithful : l.Faithful fixed w t.binding.declarations
  owned : t.Separate p.environment.classpath → t.Owned fixed w p.environment l

variable {t} {fixed : String → String → Prop} {w v : Workspace} {l : Ledger} {p : Progress}

/-! ### What metadata events preserve -/

/-- Where no type changes its declaration, a fixed file contributes what it did. -/
theorem Unaffected.contribution? (h : t.Unaffected fixed w v) {source k : String}
    (isFixed : fixed source k) : v.contribution? t.binding.declarations source k =
      w.contribution? t.binding.declarations source k := by
  have targets : v.targetsOf t.binding.declarations = w.targetsOf t.binding.declarations := by
    funext type
    rw [Workspace.targetsOf, Workspace.targetsOf, Catalogue.targetsOf, Catalogue.targetsOf,
      h.declarations type, h.config]
  rw [Workspace.contribution?, Workspace.contribution?, h.fixed source k isFixed, targets]

/-- A name that two mods declare is declared from one source. -/
theorem Separate.source_eq {e : Environment} (h : t.Separate e.classpath)
    (own : ∀ mod, e.project = some mod →
      mod.source = t.binding.source ∧ ∀ k ∈ mod.metadata.configs, t.own k)
    {m n : LoadedMod} (hm : m ∈ e.mods) (hn : n ∈ e.mods) (k : String)
    (inM : k ∈ m.metadata.configs) (inN : k ∈ n.metadata.configs) : m.source = n.source := by
  rw [Environment.mods, List.mem_append, Option.mem_toList] at hm hn
  rcases hm with ownM | classpathM
  · rcases hn with ownN | classpathN
    · exact (own m ownM).1.trans (own n ownN).1.symm
    · exact absurd inN (h.own k ((own m ownM).2 k inM) n classpathN)
  · rcases hn with ownN | classpathN
    · exact absurd inM (h.own k ((own n ownN).2 k inN) m classpathM)
    · exact h.classpath m classpathM n classpathN k inM inN

namespace Holds

theorem begins (begins : t.Begins w)
    (declares : ∀ k ∈ Metadata.configsOf (Metadata.ofText? (w.ownFile t.binding)), t.own k) :
    t.Holds fixed (w.modify t.generation (w.settled t.binding))
      (w.enterMods t.binding.declarations (w.environmentOf t.binding).mods ∅)
      (w.settled t.binding {}) := by
  have built := w.built_afterBuild t.binding {}
  have own : ∀ mod, (w.environmentOf t.binding).project = some mod →
      mod.source = t.binding.source ∧ ∀ k ∈ mod.metadata.configs, t.own k := by
    intro mod found
    rw [w.environmentOf_eq, Workspace.environmentWith] at found
    obtain ⟨metadata, read, rfl⟩ := Option.map_eq_some_iff.1 found
    rw [read] at declares
    exact ⟨rfl, declares⟩
  refine ⟨begins.standing.asked, ?_, own, Ledger.Faithful.empty.enterMods _, fun separate => ?_⟩
  · rw [Workspace.contributions_enterMods, w.environmentOf_eq]
    exact ⟨rfl, rfl, rfl, rfl, built.represents⟩
  · intro mod member k named isFixed c read
    refine w.getElem?_enterMods t.binding.declarations (fun n other namedToo => ?_)
      ⟨mod, member, named⟩ read ∅
    exact separate.source_eq own other member k namedToo named

theorem unaffected (h : t.Holds fixed w l p) (unaffected : t.Unaffected fixed w v) :
    t.Holds fixed v l p where
  current := unaffected.current.trans h.current
  registration := unaffected.registration.trans h.registration
  isUnlocked := h.isUnlocked
  isIdle := h.isIdle
  built := h.built
  own := h.own
  faithful := by
    intro k holding held isFixed
    rw [unaffected.contribution? isFixed]
    exact h.faithful k holding held isFixed
  owned := by
    intro separate mod member k named isFixed c read
    rw [unaffected.contribution? isFixed] at read
    exact h.owned separate mod member k named isFixed c read

theorem settled (h : t.Holds fixed w l p) : w.settled t.binding p = p :=
  h.built.settled w t.binding

theorem diff_eq (h : t.Holds fixed w l p) (new : Metadata) :
    t.diff w p new = new.diffFrom (t.knownMetadata w) := by
  rw [diff, h.settled, knownMetadata, h.environment]
  rfl

theorem projectConfigs_eq (h : t.Holds fixed w l p) :
    (w.settled t.binding p).environment.projectConfigs =
      Metadata.configsOf (t.knownMetadata w) := by
  rw [h.settled, knownMetadata, h.environment]
  rfl

theorem complete (h : t.Holds fixed w l p) :
    (w.settled t.binding p).Built p.environment l.contributions := by
  rw [h.settled]
  exact h.built

/-- The configs of the known metadata are those of the own mod. -/
theorem exists_own (h : t.Holds fixed w l p) {k : String}
    (known : k ∈ Metadata.configsOf p.environment.projectMetadata) :
    t.own k ∧ ∃ mod ∈ p.environment.mods,
      mod.source = t.binding.source ∧ k ∈ mod.metadata.configs := by
  cases found : p.environment.project with
  | none =>
      rw [Environment.projectMetadata, found] at known
      exact absurd known Std.ExtTreeSet.not_mem_empty
  | some mod =>
      rw [Environment.projectMetadata, found] at known
      obtain ⟨source, own⟩ := h.own mod found
      refine ⟨own k known, mod, ?_, source, known⟩
      rw [Environment.mods, found]
      exact List.mem_cons_self

/-- The new own mod holds its configs, be it that it held them before or that they are entered
now, and the classpath holds what it held. -/
theorem owned_metadataChanged (h : t.Holds fixed w l p) (new : Metadata)
    (declares : ∀ k ∈ new.configs, t.own k) (separate : t.Separate p.environment.classpath) :
    t.Owned fixed w { p.environment with project := some ⟨t.binding.source, new⟩ }
      (w.enterConfigs t.binding.declarations t.binding.source
        (new.diffFrom p.environment.projectMetadata).added.toList
        (l.strike (new.diffFrom p.environment.projectMetadata).removed.toList)) := by
  intro mod member k named isFixed c read
  rw [Workspace.getElem?_enterConfigs, Ledger.getElem?_strike]
  simp only [Std.ExtTreeSet.mem_toList, Metadata.mem_added, Metadata.mem_removed]
  rcases List.mem_cons.1 member with rfl | classpath
  · by_cases known : k ∈ Metadata.configsOf p.environment.projectMetadata
    · -- declared before and after: the event does not touch the config
      obtain ⟨-, old, present, source, declared⟩ := h.exists_own known
      rw [if_neg fun added => added.2 known, if_neg fun removed => removed.2 named]
      have held := h.owned separate old present k declared
      rw [source] at held
      exact held isFixed c read
    · rw [if_pos ⟨named, known⟩, read]
      rfl
  · have foreign : ¬ t.own k := fun own => separate.own k own mod classpath named
    rw [if_neg fun added => foreign (declares k added.1),
      if_neg fun removed => foreign (h.exists_own removed.1).1]
    exact h.owned separate mod (List.mem_append_right _ classpath) k named isFixed c read

theorem metadataChanged (h : t.Holds fixed w l p) (new : Metadata)
    (declares : ∀ k ∈ new.configs, t.own k) :
    t.Holds fixed (t.afterEvent w (w.applyMetadata t.binding new (t.diff w p new)))
      (w.enterConfigs t.binding.declarations t.binding.source (t.diff w p new).added.toList
        (l.strike (t.diff w p new).removed.toList))
      (t.progressAfter w (w.applyMetadata t.binding new (t.diff w p new)) p) := by
  have built := h.complete.lock.applyMetadata w t.binding new (t.diff w p new)
  refine ⟨h.toStanding.afterEvent built.isKept, ?_, ?_, ?_, fun separate => ?_⟩
  · rw [Workspace.contributions_enterConfigs, Ledger.contributions_strike]
    exact built.unlock.self
  · intro mod found
    obtain rfl : ⟨t.binding.source, new⟩ = mod := Option.some.inj found
    exact ⟨rfl, declares⟩
  · exact (h.faithful.strike _).enterConfigs _ _
  · have environment : (t.progressAfter w (w.applyMetadata t.binding new (t.diff w p new))
        p).environment = { p.environment with project := some ⟨t.binding.source, new⟩ } :=
      built.unlock.environment
    rw [environment] at separate ⊢
    rw [diff, h.settled]
    exact h.owned_metadataChanged new declares separate

theorem metadataRemoved (h : t.Holds fixed w l p) :
    t.Holds fixed (t.afterEvent w
        (Progress.dropMetadata (w.settled t.binding p).environment.projectConfigs))
      (l.strike (w.settled t.binding p).environment.projectConfigs.toList)
      (t.progressAfter w
        (Progress.dropMetadata (w.settled t.binding p).environment.projectConfigs) p) := by
  set configs := (w.settled t.binding p).environment.projectConfigs with configsDef
  have built := h.complete.lock.dropMetadata configs
  refine ⟨h.toStanding.afterEvent built.isKept, ?_, ?_, h.faithful.strike _,
    fun separate => ?_⟩
  · rw [Ledger.contributions_strike]
    exact built.unlock.self
  · intro mod found
    cases found
  · have environment : (t.progressAfter w (Progress.dropMetadata configs) p).environment =
        { p.environment with project := none } := built.unlock.environment
    rw [environment] at separate ⊢
    intro mod classpath k named isFixed c read
    have foreign : ¬ t.own k := fun own => separate.own k own mod classpath named
    have kept : k ∉ configs.toList := by
      rw [Std.ExtTreeSet.mem_toList, configsDef, h.settled]
      exact fun known => foreign (h.exists_own known).1
    rw [Ledger.getElem?_strike, if_neg kept]
    exact h.owned separate mod (List.mem_append_right _ classpath) k named isFixed c read

end Holds

theorem Held.holds (held : t.Held fixed w l) : ∃ p, t.Holds fixed w l p := by
  induction held with
  | built begins declares performed =>
      obtain rfl := Workspace.eq_of_perform begins.standing.index performed
      exact ⟨_, .begins begins declares⟩
  | meanwhile _ unaffected ih =>
      obtain ⟨p, holds⟩ := ih
      exact ⟨p, holds.unaffected unaffected⟩
  | metadataChanged _ meaningful declares performed ih =>
      obtain ⟨p, holds⟩ := ih
      obtain rfl := Workspace.eq_of_perform (holds.toStanding.metadataChanged meaningful) performed
      rw [← holds.diff_eq]
      exact ⟨_, holds.metadataChanged _ declares⟩
  | metadataIgnored _ meaningless performed ih =>
      obtain ⟨p, holds⟩ := ih
      obtain rfl := Workspace.eq_of_perform (holds.toStanding.metadataIgnored meaningless) performed
      exact ⟨p, holds⟩
  | metadataRemoved _ performed ih =>
      obtain ⟨p, holds⟩ := ih
      obtain rfl := Workspace.eq_of_perform holds.toStanding.metadataRemoved performed
      rw [← holds.projectConfigs_eq]
      exact ⟨_, holds.metadataRemoved⟩

/-! ### What is reported -/

end Tenure

/-- An application is reported to those who ask for the applications to its target. -/
def Workspace.Reports (w : Workspace) (project : String) (a : Application) : Prop :=
  ∃ applications v, w.perform Workspace.readResource (.mixins project a.target) =
    some (.mixins applications, v) ∧ a ∈ applications

namespace Tenure

variable {t : Tenure} {fixed : String → String → Prop} {w : Workspace} {l : Ledger} {p : Progress}

theorem Holds.reports_iff (h : t.Holds fixed w l p) (a : Application) :
    w.Reports t.project a ↔
      ∃ (config : String) (holding : Holding),
        l[config]? = some holding ∧ a ∈ holding.contribution.applications := by
  have shown : w.Reports t.project a ↔ a ∈ p.index.mixinsFor a.target := by
    have answer := h.toStanding.mixins a.target
    rw [h.settled] at answer
    constructor
    · rintro ⟨applications, v, performed, member⟩
      rw [answer, Option.some.injEq, Prod.mk.injEq, Answer.mixins.injEq] at performed
      rw [performed.1]
      exact member
    · exact fun member => ⟨_, _, answer, member⟩
  rw [shown, Index.mixinsFor, Std.ExtTreeSet.mem_toList, h.built.represents.bucket_eq,
    Contributions.mem_toTarget, and_iff_right rfl, Contributions.mem_applications]
  simp only [Ledger.getElem?_contributions, Option.map_eq_some_iff]
  constructor
  · rintro ⟨config, c, ⟨holding, held, rfl⟩, member⟩
    exact ⟨config, holding, held, member⟩
  · rintro ⟨config, holding, held, member⟩
    exact ⟨config, _, ⟨holding, held, rfl⟩, member⟩

/-- No metadata event gets stuck.  After any of them exactly the applications are reported that
some holding contributes.  So a mod has its contribution reported if it holds the config, and that
is so for all configs if their names are separate. -/
theorem Held.reported (held : t.Held fixed w l) :
    (∀ text, (w.perform Workspace.readResource (.metadataChanged t.project text)).isSome = true) ∧
    (w.perform Workspace.readResource (.metadataRemoved t.project)).isSome = true ∧
    ∃ environment, w.environment t.project = some environment ∧
      (∀ a, w.Reports t.project a ↔
        ∃ (config : String) (holding : Holding),
          l[config]? = some holding ∧ a ∈ holding.contribution.applications) ∧
      ∀ mod ∈ environment.mods, ∀ config ∈ mod.metadata.configs, fixed mod.source config →
        ∀ c, w.contribution? t.binding.declarations mod.source config = some c →
          (l[config]?.map Holding.source = some mod.source ∨ t.Separate environment.classpath) →
            ∀ a ∈ c.applications, w.Reports t.project a := by
  obtain ⟨p, holds⟩ := held.holds
  refine ⟨fun text => ?_, ?_, p.environment, holds.environment, holds.reports_iff,
    fun mod member config named isFixed c read condition a contributed => ?_⟩
  · cases read : Metadata.ofText text with
    | error failure =>
        rw [holds.metadataIgnored read]
        rfl
    | ok new =>
        rw [holds.toStanding.metadataChanged read]
        rfl
  · rw [holds.toStanding.metadataRemoved]
    rfl
  · rw [holds.reports_iff]
    rcases condition with holder | separate
    · -- what the mod holds is what can be read of the config now
      obtain ⟨holding, held, source⟩ := Option.map_eq_some_iff.1 holder
      have same := holds.faithful config holding held (source ▸ isFixed)
      rw [source, read, Option.some.injEq] at same
      exact ⟨config, holding, held, same ▸ contributed⟩
    · exact ⟨config, _, holds.owned separate mod member config named isFixed c read, contributed⟩

/-- A metadata file that declares the config both mods have. -/
def declaringShared : String :=
  "\x7b\"schemaVersion\": 1, \"id\": \"m\", \"mixins\": [\"c\"]\x7d"

/-- A project and a library with a config of the same name each. -/
def sharing : Workspace where
  sources := .ofList
    [("p", Source.memory "p" (.ofList [("fabric.mod.json", declaringShared),
      ("c", "\x7b\"package\": \"p\", \"mixins\": [\"Own\"]\x7d")])),
      ("l", Source.memory "l" (.ofList [("fabric.mod.json", declaringShared),
        ("c", "\x7b\"package\": \"l\", \"mixins\": [\"Lib\"]\x7d")]))]
  catalogues := .ofList [("d", Catalogue.empty.insert
    { name := ⟨"l.Lib"⟩
      annotations := [{
        typeName := "Mixin"
        values := .ofList [("targets", Annotation.Value.array [.string "x.Lamp"])] }] })]

/-- The library stays, but with the project's own mod its config is gone. -/
theorem reported_sharing :
    ∃ (w : Workspace) (l : Ledger),
      (ofRegister sharing "p" ⟨"p", ["l"], "d"⟩ fun _ => True).Held (fun _ _ => True) w l ∧
        ((w.environment "p").any fun e => e.mods.any fun mod =>
          mod.metadata.configs.contains "c" && (w.contribution? "d" mod.source "c").any
            (·.applications.contains ⟨⟨"x.Lamp"⟩, ⟨"l.Lib"⟩⟩)) = true ∧
          ¬ w.Reports "p" ⟨⟨"x.Lamp"⟩, ⟨"l.Lib"⟩⟩ := by
  have begins := begins_register sharing "p" ⟨"p", ["l"], "d"⟩ fun _ => True
  have standing := begins.standing.asked
  have built : (ofRegister sharing "p" ⟨"p", ["l"], "d"⟩ fun _ => True).Held (fun _ _ => True)
      _ _ := .built begins (fun _ _ => trivial) begins.standing.index
  obtain ⟨w, l, removed, empty, contributed⟩ : ∃ (w : Workspace) (l : Ledger),
      (ofRegister sharing "p" ⟨"p", ["l"], "d"⟩ fun _ => True).Held (fun _ _ => True) w l ∧
        l.isEmpty = true ∧
          ((w.environment "p").any fun e => e.mods.any fun mod =>
            mod.metadata.configs.contains "c" && (w.contribution? "d" mod.source "c").any
              (·.applications.contains ⟨⟨"x.Lamp"⟩, ⟨"l.Lib"⟩⟩)) = true :=
    ⟨_, _, .metadataRemoved built standing.metadataRemoved, by decide +kernel,
      by decide +kernel⟩
  obtain ⟨-, -, environment, -, reports, -⟩ := removed.reported
  refine ⟨w, l, removed, contributed, ?_⟩
  change ¬ w.Reports (ofRegister sharing "p" ⟨"p", ["l"], "d"⟩ fun _ => True).project _
  rw [reports]
  rintro ⟨config, holding, held, -⟩
  rw [Std.ExtTreeMap.isEmpty_iff.1 empty, Std.ExtTreeMap.getElem?_empty] at held
  cases held

end Tenure

end MixinIndex
