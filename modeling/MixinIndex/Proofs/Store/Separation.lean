import MixinIndex.Proofs.Store.Mirroring

/-!
# Requests of one project and of others

A request has to do with the realm of a project or not.  In the first case it does the same in all
workspaces that show the same of the realm; in the second it leaves the realm as it is.

## Main definitions

* `Realm.concerns`: the requests that have to do with a realm
* `Call.Mirrors`: a call in one workspace, and the same call in the other
* `Call.WorksFor`, `Call.IsForeign`: a call that works for another project

## Main statements

* `Operation.mirrors`: a request begins that has to do with a realm
* `Operation.spares`: a request begins that has not
* `Call.IsForeign.advance`: a call of another project goes on

## Design notes

What a foreign call may do is known from the same fact as what a call of the realm does: its work is
alike, for the realm of the other project, to itself.
-/

namespace MixinIndex

/-! ### Requests of other projects -/

/-- A request has to do with a realm: it is about its project or about all of them, or changes its
sources or declarations. -/
def Realm.concerns (m : Realm) : Operation → Bool
  | .projects => true
  | .putFile source _ _ | .removeFile source _ => m.sources source
  | .declare declarations _ | .undeclare declarations _ => m.declarations declarations
  | operation => operation.namedProject? == some m.project

namespace Workspace

/-- Registrations remain those of their projects. -/
def KeepsProjects (w u : Workspace) : Prop :=
  ∀ g r, w.registration? g = some r → ∃ r', u.registration? g = some r' ∧ r'.project = r.project

theorem KeepsProjects.modifyAt (w : Workspace) (bound : Option Generation)
    (f : Progress → Progress) : w.KeepsProjects (w.modifyAt bound f) := by
  intro k r known
  cases bound with
  | none => exact ⟨r, known, rfl⟩
  | some g =>
      show ∃ r', (w.modify g f).registration? k = some r' ∧ r'.project = r.project
      rw [registration?_modify, known]
      split
      · exact ⟨r.modify f, rfl, rfl⟩
      · exact ⟨r, rfl, rfl⟩

theorem Edits.keepsProjects {w u : Workspace} (h : w.Edits u) : w.KeepsProjects u := by
  intro g r known
  obtain ⟨r', known', same, -⟩ := h.evolves.registration known
  exact ⟨r', known', same⟩

/-- A workspace shows the same as itself. -/
theorem mirrors_self (w : Workspace) (project : String) :
    w.Mirrors (.whole project)
      (fun g k => g = k ∧ ∃ r, w.registration? g = some r ∧ r.project = project) w where
  config := rfl
  disk := rfl
  source := fun _ _ => rfl
  catalogue := fun _ _ => rfl
  registration := by
    rintro g _ ⟨rfl, r, known, same⟩
    exact ⟨r, known, known, same, fun _ _ => rfl, rfl⟩
  unique := by
    rintro g _ g' _ ⟨rfl, -⟩ ⟨rfl, -⟩
    exact Iff.rfl
  current := by
    show w.current? project = none ∧ _ ∨ _
    cases inForce : w.current? project with
    | none => exact Or.inl ⟨rfl, inForce⟩
    | some g => exact Or.inr ⟨g, g, ⟨rfl, w.registry.registered inForce⟩, inForce, inForce⟩

end Workspace

/-- A call works for a project: whatever it goes on to do, it does for a registration of that
project. -/
structure Call.WorksFor (call : Call) (project : String) (bound : Option Generation)
    (w : Workspace) : Prop where
  request : call.operation.isEdit = false
  registered : ∀ g ∈ bound, ∃ r, w.registration? g = some r ∧ r.project = project
  /-- Its work is alike to itself. -/
  work : call.work.Alike (.whole project) (Operation.SaysSame (.whole project)) call.work
    (bound.map fun g => (g, g))

/-- A call works for another project than that of a realm. -/
def Call.IsForeign (m : Realm) (w : Workspace) (call : Call) : Prop :=
  ∃ other bound, other ≠ m.project ∧ call.WorksFor other bound w

/-- The result of work that is over. -/
def Work.result? {α : Type} : Work α → Option α
  | .done result => some result
  | _ => none

/-- The request of a call, and what its result, if there is one, says about the project of a
realm. -/
def Call.report (m : Realm) (call : Call) : Operation × Option Answer :=
  (call.operation, call.work.result?.map (·.about m.project))

/-- A call is for a request that has to do with a realm. -/
def Realm.concernsCall (m : Realm) (call : Call) : Bool := m.concerns call.operation

/-- A call in a session, and the same call in what is left of it. -/
structure Call.Mirrors (m : Realm) (paired : Generation → Generation → Prop) (call call' : Call) :
    Prop where
  operation : call'.operation = call.operation
  request : call.work.isSuspended = true → call.operation.isEdit = false
  work : ∃ bound, (∀ pair ∈ bound, paired pair.1 pair.2) ∧
    call.work.Alike m (Operation.SaysSame m) call'.work bound

variable {m : Realm} {paired paired' : Generation → Generation → Prop} {w v u : Workspace}

theorem Call.Mirrors.report {call call' : Call} (h : call.Mirrors m paired call') :
    call'.report m = call.report m := by
  have results : call'.work.result?.map (·.about m.project) =
      call.work.result?.map (·.about m.project) := by
    obtain ⟨bound, -, alike⟩ := h.work
    generalize call.work = work, call'.work = work' at alike
    cases alike with
    | done same => exact congrArg some same
    | look | change | resolve | read | wait | restart => rfl
  rw [Call.report, Call.report, h.operation, results]

theorem Call.Mirrors.concernsCall {call call' : Call} (h : call.Mirrors m paired call') :
    m.concernsCall call' = m.concernsCall call := congrArg m.concerns h.operation

theorem Call.Mirrors.mono {call call' : Call} (h : call.Mirrors m paired call')
    (more : ∀ {g k : Generation}, paired g k → paired' g k) : call.Mirrors m paired' call' := by
  obtain ⟨bound, pairs, alike⟩ := h.work
  exact ⟨h.operation, h.request, bound, fun pair member => more (pairs pair member), alike⟩

theorem Call.IsForeign.stable {call : Call} (h : call.IsForeign m w)
    (keeps : w.KeepsProjects u) : call.IsForeign m u := by
  obtain ⟨other, bound, different, works⟩ := h
  refine ⟨other, bound, different, works.request, fun g member => ?_, works.work⟩
  obtain ⟨r, registered, rfl⟩ := works.registered g member
  exact keeps g r registered

namespace Operation

/-- A request that has to do with a realm and stops is about its project or all of them. -/
theorem named_of_concerns {operation : Operation} (concerned : m.concerns operation = true)
    (request : operation.isEdit = false) :
    operation = .projects ∨ operation.namedProject? = some m.project := by
  cases operation with
  | projects => exact Or.inl rfl
  | register | removeProject | putFile | removeFile | declare | undeclare => cases request
  | phase | environment | index | tryMixins | mixins | augmentations | metadataChanged
  | metadataRemoved | typesChanged => exact Or.inr (eq_of_beq concerned)

/-- A request that has nothing to do with it is about another project. -/
theorem named_of_not_concerns {operation : Operation} (foreign : m.concerns operation = false)
    (request : operation.isEdit = false) :
    ∃ other, other ≠ m.project ∧ operation.namedProject? = some other := by
  cases operation with
  | projects => exact Bool.noConfusion (show true = false from foreign)
  | register | removeProject | putFile | removeFile | declare | undeclare => cases request
  | phase | environment | index | tryMixins | mixins | augmentations | metadataChanged
  | metadataRemoved | typesChanged =>
      exact ⟨_, fun same => ne_of_beq_false foreign (congrArg some same), rfl⟩

end Operation

/-! ### One stretch of work -/

namespace Workspace

/-- What is done for the project of a realm is done in both. -/
theorem Mirrors.advance (h : w.Mirrors m paired v) {work work' : Work Answer}
    {bound : Pairing} (pairs : ∀ pair ∈ bound, paired pair.1 pair.2)
    (alike : work.Alike m (Operation.SaysSame m) work' bound) :
    (work.advance w).2.Mirrors m paired (work'.advance v).2 ∧
      w.KeepsProjects (work.advance w).2 ∧
      (work.advance w).1.Alike m (Operation.SaysSame m) (work'.advance v).1 bound := by
  obtain ⟨f, changed, changed', rest⟩ := alike.advance ⟨paired, h, pairs⟩
  rw [changed, changed']
  refine ⟨?_, .modifyAt w _ f, rest⟩
  cases bound with
  | none => exact h
  | some pair => exact h.modify (pairs pair rfl) f

end Workspace

/-- What is done for another project has nothing to do with the realm. -/
theorem Call.IsForeign.advance {call : Call} (h : call.IsForeign m w) :
    w.Spares m (call.work.advance w).2 ∧ w.KeepsProjects (call.work.advance w).2 ∧
      Call.IsForeign m (call.work.advance w).2
        { call with work := (call.work.advance w).1 } := by
  obtain ⟨other, bound, different, works⟩ := h
  have pairs : ∀ pair ∈ bound.map fun g => (g, g), pair.1 = pair.2 ∧
      ∃ r, w.registration? pair.1 = some r ∧ r.project = other := by
    intro pair member
    obtain ⟨g, isBound, rfl⟩ := Option.map_eq_some_iff.1 member
    exact ⟨rfl, works.registered g isBound⟩
  obtain ⟨f, changed, -, rest⟩ := works.work.advance ⟨_, w.mirrors_self other, pairs⟩
  have keeps : w.KeepsProjects (call.work.advance w).2 := by
    rw [changed]
    exact .modifyAt w _ f
  refine ⟨?_, keeps, ?_⟩
  · rw [changed]
    cases bound with
    | none => exact .refl m w
    | some g =>
        obtain ⟨r, registered, rfl⟩ := works.registered g rfl
        exact .modify registered different f
  · refine ⟨other, bound, different, works.request, fun g member => ?_, rest⟩
    obtain ⟨r, registered, rfl⟩ := works.registered g member
    exact keeps g r registered

namespace Operation

variable {operation : Operation}

/-- An edit of a realm is made in both, and the answers say the same. -/
theorem mirrors_edit (h : w.Mirrors m paired v) (edit : operation.isEdit = true)
    (concerned : m.concerns operation = true)
    (own : ∀ b, operation = .register m.project b → b.Within m) :
    ∃ paired' : Generation → Generation → Prop, (∀ {g k : Generation}, paired g k → paired' g k) ∧
      (operation.work.advance w).2.Mirrors m paired' (operation.work.advance v).2 ∧
      (operation.work.advance w).1.Alike m (SaysSame m) (operation.work.advance v).1 none := by
  cases operation with
  | register project b =>
      obtain rfl : project = m.project := Option.some.inj (eq_of_beq concerned)
      have after := h.register (own b rfl)
      refine ⟨_, Or.inl, after, .done ?_⟩
      show Answer.projects _ = Answer.projects _
      rw [Workspace.filter_projectNames, Workspace.filter_projectNames, after.isSome_current?]
  | removeProject project =>
      obtain rfl : project = m.project := Option.some.inj (eq_of_beq concerned)
      refine ⟨paired, id, h.removeProject, .done ?_⟩
      show Answer.flag _ = Answer.flag _
      rw [h.isSome_current?]
  | putFile source path text =>
      refine ⟨paired, id, h.modifySource concerned _, .done ?_⟩
      show Answer.file _ = Answer.file _
      rw [h.source source concerned]
  | removeFile source path =>
      refine ⟨paired, id, h.modifySource concerned _, .done ?_⟩
      show Answer.file _ = Answer.file _
      rw [h.source source concerned]
  | declare declarations declaration =>
      refine ⟨paired, id, h.modifyCatalogue concerned (·.insert declaration), .done ?_⟩
      show Answer.flag _ = Answer.flag _
      rw [h.catalogue declarations concerned]
  | undeclare declarations type =>
      refine ⟨paired, id, h.modifyCatalogue concerned (·.erase type), .done ?_⟩
      show Answer.flag _ = Answer.flag _
      rw [h.catalogue declarations concerned]
  | projects | phase | environment | index | tryMixins | mixins | augmentations | metadataChanged
  | metadataRemoved | typesChanged => cases edit

/-- A call begins that has to do with a realm. -/
theorem mirrors (h : w.Mirrors m paired v) (concerned : m.concerns operation = true)
    (own : ∀ b, operation = .register m.project b → b.Within m) :
    ∃ paired' : Generation → Generation → Prop, (∀ {g k : Generation}, paired g k → paired' g k) ∧
      (operation.work.advance w).2.Mirrors m paired' (operation.work.advance v).2 ∧
      w.KeepsProjects (operation.work.advance w).2 ∧
      Call.Mirrors m paired' ⟨operation, none, (operation.work.advance w).1⟩
        ⟨operation, none, (operation.work.advance v).1⟩ := by
  by_cases edit : operation.isEdit = true
  · obtain ⟨paired', more, mirrors, alike⟩ := mirrors_edit h edit concerned own
    obtain ⟨⟨answer, returned⟩, edits⟩ := operation.edits edit w
    refine ⟨paired', more, mirrors, edits.keepsProjects, rfl, fun suspended => ?_, none, ?_, alike⟩
    · rw [returned] at suspended
      cases suspended
    · rintro _ ⟨⟩
  · have request : operation.isEdit = false := by simpa using edit
    have pairs : ∀ pair ∈ (none : Pairing), paired pair.1 pair.2 := by
      rintro _ ⟨⟩
    obtain ⟨mirrors, keeps, rest⟩ := h.advance pairs
      (alike request (named_of_concerns concerned request))
    exact ⟨paired, id, mirrors, keeps, rfl, fun _ => request, none, pairs, rest⟩

/-- An edit that has nothing to do with a realm. -/
theorem spares_edit (edit : operation.isEdit = true) (foreign : m.concerns operation = false) :
    w.Spares m (operation.work.advance w).2 := by
  cases operation with
  | register project b =>
      exact .register (fun same => ne_of_beq_false foreign (congrArg some same)) b
  | removeProject project =>
      exact .removeProject fun same => ne_of_beq_false foreign (congrArg some same)
  | putFile source path text => exact .modifySource foreign _
  | removeFile source path => exact .modifySource foreign _
  | declare declarations declaration => exact .modifyCatalogue foreign (·.insert declaration)
  | undeclare declarations type => exact .modifyCatalogue foreign (·.erase type)
  | projects | phase | environment | index | tryMixins | mixins | augmentations | metadataChanged
  | metadataRemoved | typesChanged => cases edit

/-- A call of another project is foreign when it begins, and when it begins anew. -/
theorem isForeign (request : operation.isEdit = false) (foreign : m.concerns operation = false)
    (w : Workspace) (bound : Option Generation) :
    Call.IsForeign m w ⟨operation, bound, operation.work⟩ := by
  obtain ⟨other, different, named⟩ := named_of_not_concerns foreign request
  refine ⟨other, none, different, request, ?_, alike request (Or.inr named)⟩
  rintro _ ⟨⟩

/-- A call begins that has nothing to do with a realm. -/
theorem spares (foreign : m.concerns operation = false) (w : Workspace) :
    w.Spares m (operation.work.advance w).2 ∧ w.KeepsProjects (operation.work.advance w).2 ∧
      ((operation.work.advance w).1.isSuspended = true →
        Call.IsForeign m (operation.work.advance w).2
          ⟨operation, none, (operation.work.advance w).1⟩) := by
  by_cases edit : operation.isEdit = true
  · obtain ⟨⟨answer, returned⟩, edits⟩ := operation.edits edit w
    refine ⟨spares_edit edit foreign, edits.keepsProjects, fun suspended => ?_⟩
    rw [returned] at suspended
    cases suspended
  · obtain ⟨spares, keeps, rest⟩ := (isForeign (by simpa using edit) foreign w none).advance
    exact ⟨spares, keeps, fun _ => rest⟩

end Operation

end MixinIndex
