import Mathlib.Data.List.Induction
import MixinIndex.Proofs.Store.Undisturbed

/-!
# The load state of a project

"No data yet" and "loaded with nothing" are never confused.  While requests are served one after the
other, the index of a project is loaded exactly if the project is registered and some request since
its registration has seen to the index, whether or not that request succeeded otherwise.

## Main definitions

* `Operation.supersedes`, `Operation.settles`: the requests that end a registration of a project,
  and those that see to its index
* `Operation.RegisteredSince`, `Operation.HasLoaded`: what requests say about the load state
* `Workspace.After`: the workspaces that requests lead to, one after the other
* `Progress.IsAtRest`: nobody is building, and no event is being applied
* `Operation.Turns`: what a request makes of the registration of a project

## Main statements

* `Operation.turns`: every request is answered, and leaves all registrations at rest
* `Workspace.After.tells`: what requests say about the load state is so
* `Workspace.After.loadState`: the load state of a project, and the questions that do not build
-/

namespace MixinIndex

namespace Operation

/-! ### What requests say -/

/-- A request ends the registration of a project that is in force: it registers or forgets the
project. -/
def supersedes (project : String) : Operation → Bool
  | register other _ | removeProject other => other = project
  | _ => false

/-- A request sees to the index of a project. -/
def settles (project : String) (operation : Operation) : Bool :=
  operation.subject? = some project && !operation.isMeaningless

/-- A project is registered, and given are the requests since its latest registration. -/
def RegisteredSince (operations : List Operation) (project : String) (since : List Operation) :
    Prop :=
  ∃ before binding, operations = before ++ .register project binding :: since ∧
    ∀ operation ∈ since, operation.supersedes project = false

/-- A project is registered, and since its latest registration some request has seen to its
index. -/
def HasLoaded (operations : List Operation) (project : String) : Prop :=
  ∃ since, RegisteredSince operations project since ∧
    ∃ operation ∈ since, operation.settles project = true

theorem not_registeredSince_nil (project : String) (since : List Operation) :
    ¬ RegisteredSince [] project since := by
  rintro ⟨before, binding, split, -⟩
  exact absurd split (by simp)

/-- The last request registers the project, or leaves it registered. -/
theorem registeredSince_concat {operations : List Operation} {operation : Operation}
    {project : String} {since : List Operation} :
    RegisteredSince (operations ++ [operation]) project since ↔
      (∃ binding, operation = .register project binding) ∧ since = [] ∨
      operation.supersedes project = false ∧
        ∃ earlier, since = earlier ++ [operation] ∧ RegisteredSince operations project earlier := by
  constructor
  · rintro ⟨before, binding, split, quiet⟩
    rcases List.eq_nil_or_concat' since with rfl | ⟨earlier, last, rfl⟩
    · obtain ⟨-, same⟩ := List.append_inj' split rfl
      exact Or.inl ⟨⟨binding, List.head_eq_of_cons_eq same⟩, rfl⟩
    · rw [← List.cons_append, ← List.append_assoc] at split
      obtain ⟨rfl, same⟩ := List.append_inj' split rfl
      obtain rfl := List.head_eq_of_cons_eq same
      exact Or.inr ⟨quiet operation (by simp), earlier, rfl, before, binding, rfl,
        fun other mem => quiet other (List.mem_append_left _ mem)⟩
  · rintro (⟨⟨binding, rfl⟩, rfl⟩ | ⟨quiet, earlier, rfl, before, binding, rfl, quietBefore⟩)
    · exact ⟨operations, binding, rfl, fun _ mem => absurd mem List.not_mem_nil⟩
    · refine ⟨before, binding, by simp, fun other mem => ?_⟩
      rcases List.mem_append.1 mem with mem | mem
      · exact quietBefore other mem
      · obtain rfl := List.mem_singleton.1 mem
        exact quiet

/-- A project remains registered unless a request supersedes its registration. -/
theorem RegisteredSince.concat {operations : List Operation} {operation : Operation}
    {project : String} {since : List Operation} (h : RegisteredSince operations project since)
    (keeps : operation.supersedes project = false) :
    RegisteredSince (operations ++ [operation]) project (since ++ [operation]) :=
  registeredSince_concat.2 (Or.inr ⟨keeps, since, rfl, h⟩)

end Operation

/-! ### Registrations at rest -/

/-- Nobody is building and no event is being applied: the index is there, or nothing has been
built. -/
structure Progress.IsAtRest (p : Progress) : Prop where
  isUnlocked : p.isLocked = false
  phase : p.isKept = true ∧ p.phase = .loaded ∨ p.isKept = false ∧ p.phase = .unloaded

namespace Progress.IsAtRest

variable {p : Progress} (h : p.IsAtRest)
include h

/-- Requests do not have to wait. -/
theorem not_busy : ¬ (p.isLocked = true ∨ p.isKept = false ∧ p.phase = .loading) := by
  rintro (locked | ⟨unkept, loading⟩)
  · rw [h.isUnlocked] at locked
    cases locked
  · rcases h.phase with ⟨kept, -⟩ | ⟨-, unloaded⟩
    · rw [unkept] at kept
      cases kept
    · rw [loading] at unloaded
      cases unloaded

/-- Once the index has been seen to, it is there. -/
theorem settled (w : Workspace) (b : Binding) :
    (w.settled b p).isLocked = false ∧ (w.settled b p).isKept = true ∧
      (w.settled b p).phase = .loaded := by
  rcases h.phase with ⟨kept, loaded⟩ | ⟨unkept, -⟩
  · rw [Workspace.settled, if_pos kept]
    exact ⟨h.isUnlocked, kept, loaded⟩
  · rw [Workspace.settled, if_neg (by simp [unkept])]
    exact ⟨h.isUnlocked, rfl, rfl⟩

end Progress.IsAtRest

namespace Operation

/-- What a request makes of the registration of a project that is in force. -/
inductive Turns (operation : Operation) (project : String) :
    Option Registration → Option Registration → Prop
  /-- The project is registered anew. -/
  | registered {before : Option Registration} (b : Binding)
    (registers : operation = .register project b) :
    Turns operation project before (some { project, binding := b })
  /-- The project is forgotten. -/
  | removed {before : Option Registration} (removes : operation = .removeProject project) :
    Turns operation project before none
  /-- The index has been seen to. -/
  | settled {r : Registration} {f : Progress → Progress}
    (settles : operation.settles project = true) (atRest : (f r.progress).IsAtRest)
    (loaded : (f r.progress).phase = .loaded) :
    Turns operation project (some r) (some (r.modify f))
  /-- The request does not concern the project, or finds it unregistered. -/
  | same {before : Option Registration} (keeps : operation.supersedes project = false)
    (absent : operation.settles project = true → before = none) :
    Turns operation project before before

theorem settles_eq_true_iff {operation : Operation} {project : String} :
    operation.settles project = true ↔
      operation.subject? = some project ∧ operation.isMeaningless = false := by
  simp [settles]

theorem supersedes_of_subject? {operation : Operation} {project : String}
    (about : operation.subject? = some project) (other : String) :
    operation.supersedes other = false := by
  cases operation <;> first | rfl | cases about

variable {w : Workspace} {operation : Operation}

/-- A request that leaves the registry as it is concerns no project, unless it finds it
unregistered. -/
theorem turns_of_registry {v : Workspace} (same : v.registry = w.registry)
    (keeps : ∀ project, operation.supersedes project = false)
    (absent : ∀ project, operation.settles project = true →
      w.currentRegistration? project = none) (project : String) :
    operation.Turns project (w.currentRegistration? project) (v.currentRegistration? project) := by
  rw [Workspace.currentRegistration?_of_registry same]
  exact .same (keeps project) (absent project)

/-- A request that has seen to the index of one project leaves the registrations of others as they
are. -/
theorem turns_modify {subject : String} {g : Generation} {r : Registration}
    {f : Progress → Progress} (settles : operation.settles subject = true)
    (inForce : w.current? subject = some g) (known : w.registration? g = some r)
    (rest : (f r.progress).IsAtRest) (loaded : (f r.progress).phase = .loaded) (project : String) :
    operation.Turns project (w.currentRegistration? project)
      ((w.modify g f).currentRegistration? project) := by
  have about := (settles_eq_true_iff.1 settles).1
  by_cases same : project = subject
  · subst same
    have registered : w.currentRegistration? project = some r :=
      (congrArg (·.bind w.registration?) inForce).trans known
    rw [Workspace.currentRegistration?_modify_self inForce, registered]
    exact .settled settles rest loaded
  · rw [Workspace.currentRegistration?_modify_of_ne same inForce]
    refine .same (supersedes_of_subject? about project) fun settlesToo => ?_
    have aboutToo := (settles_eq_true_iff.1 settlesToo).1
    exact absurd (Option.some.inj (aboutToo.symm.trans about)) same

/-- A request about a project whose registration is at rest is answered.  It leaves that
registration at rest, with a complete index unless it is refused, and all others as they are. -/
theorem turns_subject {subject : String} (about : operation.subject? = some subject)
    (atRest : ∀ r, w.currentRegistration? subject = some r → r.progress.IsAtRest) :
    ∃ answer v, w.perform Workspace.readResource operation = some (answer, v) ∧ ∀ project,
      operation.Turns project (w.currentRegistration? project)
        (v.currentRegistration? project) := by
  have keeps := supersedes_of_subject? about
  cases inForce : w.current? subject with
  | none =>
      refine ⟨_, w, Workspace.perform_of_unregistered about inForce,
        turns_of_registry rfl keeps fun project settles => ?_⟩
      obtain rfl := Option.some.inj (about.symm.trans (settles_eq_true_iff.1 settles).1)
      rw [Workspace.currentRegistration?, inForce]
      rfl
  | some g =>
      obtain ⟨r, known, -⟩ := w.registry.registered inForce
      replace known : w.registration? g = some r := known
      have rests := atRest r ((congrArg (·.bind w.registration?) inForce).trans known)
      obtain ⟨unlocked, kept, loaded⟩ := rests.settled w r.binding
      have ends := operation.ends about inForce known
      generalize w.perform Workspace.readResource operation = outcome at ends ⊢
      cases ends with
      | refused meaningless =>
          refine ⟨_, w, rfl, turns_of_registry rfl keeps fun project settles => ?_⟩
          rw [(settles_eq_true_iff.1 settles).2] at meaningless
          cases meaningless
      | waiting _ busy => exact absurd busy rests.not_busy
      | asked meaningful _ =>
          exact ⟨_, _, rfl, turns_modify (settles_eq_true_iff.2 ⟨about, meaningful⟩) inForce known
            ⟨unlocked, Or.inl ⟨kept, loaded⟩⟩ loaded⟩
      | @applied answer f meaningful _ _ keptBy =>
          -- the event edits an index that is there by then
          have same : (f (w.settled r.binding r.progress.lock)).isKept = true ∧
              (f (w.settled r.binding r.progress.lock)).phase = .loaded := by
            rw [(keptBy _).1, (keptBy _).2, w.settled_lock]
            exact ⟨kept, loaded⟩
          exact ⟨_, _, rfl, turns_modify (settles_eq_true_iff.2 ⟨about, meaningful⟩) inForce known
            ⟨rfl, Or.inl same⟩ same.2⟩

/-- Where all registrations are at rest every request is answered, and it leaves them so. -/
theorem turns (operation : Operation)
    (atRest : ∀ project r, w.currentRegistration? project = some r → r.progress.IsAtRest) :
    ∃ answer v, w.perform Workspace.readResource operation = some (answer, v) ∧ ∀ project,
      operation.Turns project (w.currentRegistration? project)
        (v.currentRegistration? project) := by
  cases about : operation.subject? with
  | some subject => exact turns_subject about (atRest subject)
  | none =>
      have unsettled (project : String) : ¬ operation.settles project = true := by
        simp [settles, about]
      have quiet {v : Workspace} (same : v.registry = w.registry)
          (keeps : ∀ project, operation.supersedes project = false) :=
        turns_of_registry same keeps fun project settles => absurd settles (unsettled project)
      cases operation with
      | register other b =>
          refine ⟨_, w.register other b, rfl, fun project => ?_⟩
          by_cases same : project = other
          · subst same
            rw [Workspace.currentRegistration?_register_self]
            exact .registered b rfl
          · rw [Workspace.currentRegistration?_register_of_ne same]
            exact .same (decide_eq_false (Ne.symm same)) fun settles =>
              absurd settles (unsettled project)
      | removeProject other =>
          refine ⟨_, w.removeProject other, rfl, fun project => ?_⟩
          by_cases same : project = other
          · subst same
            rw [Workspace.currentRegistration?_removeProject_self]
            exact .removed rfl
          · rw [Workspace.currentRegistration?_removeProject_of_ne same]
            exact .same (decide_eq_false (Ne.symm same)) fun settles =>
              absurd settles (unsettled project)
      | projects | phase _ | environment _ | tryMixins _ _ =>
          exact ⟨_, w, rfl, quiet rfl fun _ => rfl⟩
      | putFile _ _ _ | removeFile _ _ | declare _ _ | undeclare _ _ =>
          exact ⟨_, _, rfl, quiet rfl fun _ => rfl⟩
      | index _ | mixins _ _ | augmentations _ _ | metadataChanged _ _ | metadataRemoved _
      | typesChanged _ _ => cases about

end Operation

/-! ### Requests one after the other -/

namespace Operation

/-- There is one latest registration. -/
theorem RegisteredSince.unique {operations : List Operation} {project : String}
    {since since' : List Operation} (h : RegisteredSince operations project since)
    (h' : RegisteredSince operations project since') : since = since' := by
  induction operations using List.reverseRecOn generalizing since since' with
  | nil => exact absurd h (not_registeredSince_nil project since)
  | append_singleton operations operation ih =>
      have registers : ∀ b, operation = .register project b →
          ¬ operation.supersedes project = false := by
        rintro b rfl keeps
        exact absurd keeps (by simp [supersedes])
      rcases registeredSince_concat.1 h with
        ⟨⟨b, isRegister⟩, rfl⟩ | ⟨keeps, earlier, rfl, before⟩
      · rcases registeredSince_concat.1 h' with ⟨-, rfl⟩ | ⟨keeps, -⟩
        · rfl
        · exact absurd keeps (registers b isRegister)
      · rcases registeredSince_concat.1 h' with
          ⟨⟨b, isRegister⟩, -⟩ | ⟨-, earlier', rfl, before'⟩
        · exact absurd keeps (registers b isRegister)
        · rw [ih before before']

/-- What requests say about a project is so: it is not registered, or it is and at rest, and its
index is there if some request since then has seen to it. -/
inductive Tells (operations : List Operation) (project : String) : Option Registration → Prop
  | unregistered (absent : ∀ since, ¬ RegisteredSince operations project since) :
    Tells operations project none
  | registered {since : List Operation} {r : Registration}
    (present : RegisteredSince operations project since) (atRest : r.progress.IsAtRest)
    (loaded : r.progress.phase = .loaded ↔ ∃ operation ∈ since, operation.settles project = true) :
    Tells operations project (some r)

theorem Tells.isAtRest {operations : List Operation} {project : String}
    {registered : Option Registration} (h : Tells operations project registered)
    {r : Registration} (present : registered = some r) : r.progress.IsAtRest := by
  cases h with
  | unregistered _ => cases present
  | registered _ atRest _ =>
      obtain rfl := Option.some.inj present
      exact atRest

/-- One more request keeps it so. -/
theorem Tells.concat {operations : List Operation} {project : String}
    {before after : Option Registration} (h : Tells operations project before)
    {operation : Operation} (turns : operation.Turns project before after) :
    Tells (operations ++ [operation]) project after := by
  cases turns with
  | registered b registers =>
      have present : RegisteredSince (operations ++ [operation]) project [] :=
        registeredSince_concat.2 (Or.inl ⟨⟨b, registers⟩, rfl⟩)
      refine .registered present ⟨rfl, Or.inr ⟨rfl, rfl⟩⟩ ?_
      exact ⟨by rintro ⟨⟩, fun ⟨_, mem, _⟩ => absurd mem List.not_mem_nil⟩
  | removed removes =>
      refine .unregistered fun since present => ?_
      rcases registeredSince_concat.1 present with ⟨⟨b, registers⟩, -⟩ | ⟨keeps, -⟩
      · rw [removes] at registers
        cases registers
      · rw [removes, supersedes, decide_eq_false_iff_not] at keeps
        exact keeps rfl
  | settled settles atRest loaded =>
      cases h with
      | @registered since r present _ _ =>
          have keeps := supersedes_of_subject? (settles_eq_true_iff.1 settles).1 project
          refine .registered (present.concat keeps) atRest ?_
          exact ⟨fun _ => ⟨operation, by simp, settles⟩, fun _ => loaded⟩
  | same keeps absent =>
      cases h with
      | unregistered none =>
          refine .unregistered fun since present => ?_
          rcases registeredSince_concat.1 present with ⟨⟨b, rfl⟩, -⟩ | ⟨-, earlier, -, present⟩
          · rw [supersedes, decide_eq_false_iff_not] at keeps
            exact keeps rfl
          · exact none earlier present
      | @registered since r present atRest loaded =>
          refine .registered (present.concat keeps) atRest ?_
          have idle : operation.settles project = false := by
            rw [← Bool.not_eq_true]
            intro settles
            cases absent settles
          simp [loaded, idle, or_and_right, exists_or]

end Operation

namespace Workspace

/-- The workspaces that requests lead to, one after the other, from one in which nothing is
registered.  Meanwhile sources and declarations may change. -/
inductive After : List Operation → Workspace → Prop
  /-- Nothing has been asked. -/
  | start (w : Workspace) : After [] { w with registry := .empty }
  /-- A request is answered. -/
  | performed {operations : List Operation} {w v : Workspace} {operation : Operation}
    {answer : Answer} (after : After operations w)
    (performed : w.perform readResource operation = some (answer, v)) :
    After (operations ++ [operation]) v
  /-- Something else happens. -/
  | meanwhile {operations : List Operation} {w v : Workspace} (after : After operations w)
    (config : v.config = w.config) (registry : v.registry = w.registry) : After operations v

namespace After

variable {operations : List Operation} {w : Workspace}

/-- What requests say about the load state is so. -/
theorem tells (h : After operations w) (project : String) :
    Operation.Tells operations project (w.currentRegistration? project) := by
  induction h generalizing project with
  | start w => exact .unregistered (Operation.not_registeredSince_nil project)
  | @performed operations w v operation answer after performed ih =>
      obtain ⟨answer', v', performed', turns⟩ :=
        operation.turns fun project r registered => (ih project).isAtRest registered
      obtain rfl := eq_of_perform performed performed'
      exact (ih project).concat (turns project)
  | meanwhile after config registry ih =>
      rw [currentRegistration?_of_registry registry]
      exact ih project

/-- Every request is answered. -/
theorem answers (h : After operations w) (operation : Operation) :
    ∃ answer v, w.perform readResource operation = some (answer, v) := by
  obtain ⟨answer, v, performed, -⟩ :=
    operation.turns fun project r registered => (h.tells project).isAtRest registered
  exact ⟨answer, v, performed⟩

/-- The index of a project is there exactly if requests say so, and nothing has been built
otherwise. -/
theorem phase_eq (h : After operations w) (project : String) :
    (w.phase project = .loaded ↔ Operation.HasLoaded operations project) ∧
      (w.phase project = .unloaded ↔ ¬ Operation.HasLoaded operations project) := by
  have told := h.tells project
  unfold phase
  generalize w.currentRegistration? project = registered at told
  cases told with
  | unregistered absent =>
      have unloaded : ¬ Operation.HasLoaded operations project :=
        fun ⟨since, present, _⟩ => absent since present
      exact ⟨⟨by rintro ⟨⟩, fun loaded => absurd loaded unloaded⟩,
        ⟨fun _ => unloaded, fun _ => rfl⟩⟩
  | @registered since r present atRest loaded =>
      have known : r.progress.phase = .loaded ↔ Operation.HasLoaded operations project := by
        rw [loaded]
        constructor
        · exact fun settled => ⟨since, present, settled⟩
        · rintro ⟨since', present', settled⟩
          rwa [present.unique present']
      refine ⟨known, ?_⟩
      rw [← known]
      rcases atRest.phase with ⟨-, phase⟩ | ⟨-, phase⟩
      · simp [phase]
      · simp [phase]

/-- The applications that are known are those of an index that is there. -/
theorem tryMixins_eq (h : After operations w) (project : String) (target : TypeName) :
    (w.tryMixins project target = none ↔ w.phase project ≠ .loaded) ∧
      ∀ applications, w.tryMixins project target = some applications →
        w.perform readResource (.mixins project target) = some (.mixins applications, w) := by
  cases registered : w.currentRegistration? project with
  | none =>
      rw [tryMixins, phase, registered]
      exact ⟨⟨fun _ => by rintro ⟨⟩, fun _ => rfl⟩, by rintro _ ⟨⟩⟩
  | some r =>
      have atRest := (h.tells project).isAtRest registered
      obtain ⟨g, inForce, known⟩ := Option.bind_eq_some_iff.1 registered
      rw [tryMixins, phase, registered]
      rcases atRest.phase with ⟨kept, loaded⟩ | ⟨unkept, unloaded⟩
      · refine ⟨by simp [kept, loaded], fun applications shown => ?_⟩
        have standing := Tenure.standing_of_isIdle inForce known atRest.isUnlocked (Or.inl kept)
        have answer := standing.mixins target
        have same : w.modify g (w.settled r.binding) = w := w.modify_settled known kept
        rw [show w.settled r.binding r.progress = r.progress from if_pos kept, same] at answer
        simp only [loaded, kept, and_self, ↓reduceIte, Option.some.injEq] at shown
        rw [← shown]
        exact answer
      · simp [unkept, unloaded]

/-- At any time between requests, the index of a project is loaded exactly if the project is
registered and some request since its latest registration has seen to the index, and unloaded
otherwise.  The applications to a target are known exactly if the index is loaded, and then they are
those that a request for them finds.  All requests are answered, and the questions that do not build
leave everything as it is. -/
theorem loadState (h : After operations w) (project : String) (target : TypeName) :
    (w.phase project = .loaded ↔ Operation.HasLoaded operations project) ∧
    (w.phase project = .unloaded ↔ ¬ Operation.HasLoaded operations project) ∧
    (w.tryMixins project target = none ↔ w.phase project ≠ .loaded) ∧
    (∀ applications, w.tryMixins project target = some applications →
      w.perform readResource (.mixins project target) = some (.mixins applications, w)) ∧
    (∀ operation, ∃ answer v, w.perform readResource operation = some (answer, v)) ∧
    w.perform readResource (.phase project) = some (.phase (w.phase project), w) ∧
    w.perform readResource (.tryMixins project target) =
      some (.knownMixins (w.tryMixins project target), w) ∧
    w.perform readResource (.environment project) =
      some (.environment (w.environment project), w) := by
  obtain ⟨loaded, unloaded⟩ := h.phase_eq project
  obtain ⟨unknown, known⟩ := h.tryMixins_eq project target
  exact ⟨loaded, unloaded, unknown, known, h.answers, rfl, rfl, rfl⟩

/-- A target that is not declared is asked for.  The request fails, but has seen to the index. -/
theorem loadState_undeclared :
    ∃ w v, After [.register "p" ⟨"s", [], "d"⟩] w ∧ w.phase "p" = .unloaded ∧
      w.tryMixins "p" ⟨"x.Lamp"⟩ = none ∧
      w.perform readResource (.augmentations "p" ⟨"x.Lamp"⟩) =
        some (.failed (.typeNotFound ⟨"x.Lamp"⟩), v) ∧
      v.phase "p" = .loaded ∧ ∃ applications, v.tryMixins "p" ⟨"x.Lamp"⟩ = some applications ∧
        v.perform readResource (.mixins "p" ⟨"x.Lamp"⟩) = some (.mixins applications, v) := by
  have registered : After [.register "p" ⟨"s", [], "d"⟩]
      (({} : Workspace).register "p" ⟨"s", [], "d"⟩) := (After.start {}).performed rfl
  have failed : ∃ v, (({} : Workspace).register "p" ⟨"s", [], "d"⟩).perform readResource
      (.augmentations "p" ⟨"x.Lamp"⟩) = some (.failed (.typeNotFound ⟨"x.Lamp"⟩), v) := ⟨_, rfl⟩
  obtain ⟨v, asked⟩ := failed
  have since : Operation.RegisteredSince [.register "p" ⟨"s", [], "d"⟩] "p" [] :=
    ⟨[], _, rfl, fun _ mem => absurd mem List.not_mem_nil⟩
  have unsettled : ¬ Operation.HasLoaded [.register "p" ⟨"s", [], "d"⟩] "p" := by
    rintro ⟨since', present, operation, mem, -⟩
    rw [present.unique since] at mem
    cases mem
  have settled : Operation.HasLoaded
      ([.register "p" ⟨"s", [], "d"⟩] ++ [.augmentations "p" ⟨"x.Lamp"⟩]) "p" :=
    ⟨_, since.concat rfl, _, List.mem_cons_self, by decide⟩
  obtain ⟨-, unloaded, unknown, -⟩ := registered.loadState "p" ⟨"x.Lamp"⟩
  obtain ⟨loaded, -, unknown', known, -⟩ :=
    (registered.performed asked).loadState "p" ⟨"x.Lamp"⟩
  have built := loaded.2 settled
  have notBuilt := unloaded.2 unsettled
  obtain ⟨applications, shown⟩ := Option.ne_none_iff_exists'.1
    (mt unknown'.1 (not_not_intro built))
  exact ⟨_, v, registered, notBuilt, unknown.2 (by rw [notBuilt]; decide), asked, built,
    applications, shown, known applications shown⟩

end After

end Workspace

end MixinIndex
