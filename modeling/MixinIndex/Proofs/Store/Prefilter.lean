import Mathlib.Data.List.Induction
import MixinIndex.Proofs.Store.Applied
import MixinIndex.Proofs.Store.Staleness

/-!
# The index is an exact prefilter

What is done to a target could be found out without an index, from the declarations of all types
that the loaded configs list.  The index only leaves out types that do not name the target, as long
as all changes of declarations have been reported to it.

## Main definitions

* `Session.Reports`: an event that lists a type has been applied in a move
* `Session.Unreported`: a type has changed its declaration, and no event has listed it since
* `Workspace.augmentationsByAll`: what all listed types do to a target

## Main statements

* `Augmentations.ofTarget_filter`: types that do not name the target do nothing to it
* `Session.reflects_run`: an index reflects the declarations, apart from unreported changes
* `Session.augmentations_eq_byAll`: with all changes reported, the augmentations of a target are
  those by all listed types

## Design notes

Changes count from the moment when a build begins, and a change that comes while an event waits is
reported when that event is applied.  A type that is not declared any more does nothing, whatever
the index says of it.
-/

namespace MixinIndex

/-! ### Types that do not name the target -/

/-- Types that do not name the target do nothing to it. -/
theorem Augmentations.ofTarget_filter (names : AnnotationNames) (c : Catalogue)
    (target : Declaration) (types : List TypeName) :
    ofTarget names target ((types.filter fun type =>
        decide (target.name ∈ c.targetsOf names type)).filterMap c.find?) =
      ofTarget names target (types.filterMap c.find?) := by
  have steps (a : Augmentations) :
      ((types.filter fun type => decide (target.name ∈ c.targetsOf names type)).filterMap
        c.find?).foldl (addMixin target names) a =
          (types.filterMap c.find?).foldl (addMixin target names) a := by
    induction types generalizing a with
    | nil => rfl
    | cons type types ih =>
        cases declared : c.find? type with
        | none =>
            have unnamed : target.name ∉ c.targetsOf names type := by
              simp [Catalogue.targetsOf, declared]
            rw [List.filter_cons_of_neg (by simpa using unnamed), List.filterMap_cons_none declared]
            exact ih a
        | some mixin =>
            rw [List.filterMap_cons_some declared, List.foldl_cons]
            by_cases named : target.name ∈ c.targetsOf names type
            · rw [List.filter_cons_of_pos (by simpa using named),
                List.filterMap_cons_some declared, List.foldl_cons]
              exact ih _
            · have skipped : addMixin target names a mixin = a := by
                rw [Catalogue.targetsOf, declared] at named
                rw [addMixin, if_neg]
                rw [Std.ExtTreeSet.contains_iff_mem, ← Std.ExtTreeSet.mem_toList]
                exact named
              rw [List.filter_cons_of_neg (by simpa using named), skipped]
              exact ih a
  exact steps {}

/-- What all types that the index of a registration lists do to a target. -/
def Workspace.augmentationsByAll (w : Workspace) (r : Registration) (target : Declaration) :
    Augmentations :=
  .ofTarget w.config.annotations target
    (r.progress.index.augmentingTypes.filterMap (w.catalogue r.binding.declarations).find?)

/-- The applications in an index that reflects all declarations are enough. -/
theorem Index.Reflects.augmentationsOf_eq {x : Index} {names : AnnotationNames} {c : Catalogue}
    (h : x.Reflects (c.targetsOf names) fun _ => False) {target : TypeName} {d : Declaration}
    (declared : c.find? target = some d) (named : d.name = target) :
    augmentationsOf names c x target =
      .ok (.ofTarget names d (x.augmentingTypes.filterMap c.find?)) := by
  have applied : (x.mixinsFor target).filterMap (c.find? ·.augmenting) =
      (x.augmentingTypes.filter fun type =>
        decide (d.name ∈ c.targetsOf names type)).filterMap c.find? := by
    rw [named, ← h.mixinsFor_eq target, List.filterMap_map]
    rfl
  rw [augmentationsOf, declared, applied]
  exact congrArg Except.ok (Augmentations.ofTarget_filter names c d x.augmentingTypes)

namespace Index.Reflects

variable {x : Index} {apart : TypeName → Prop}

/-! ### Builds -/

theorem loadConfigs {w : Workspace} {declarations : String}
    (h : x.Reflects (w.targetsOf declarations) apart) (source : String) (configs : List String) :
    (w.loadConfigs declarations source configs x).Reflects (w.targetsOf declarations) apart := by
  induction configs generalizing x with
  | nil => exact h
  | cons config configs ih => exact ih (Reflects.tryLoad h config _)

theorem loadMods {w : Workspace} {declarations : String}
    (h : x.Reflects (w.targetsOf declarations) apart) (mods : List LoadedMod) :
    (w.loadMods declarations mods x).Reflects (w.targetsOf declarations) apart := by
  induction mods generalizing x with
  | nil => exact h
  | cons mod mods ih => exact ih (h.loadConfigs mod.source _)

end Index.Reflects

/-- A build reads all declarations as they are. -/
theorem Workspace.reflects_afterBuild (w : Workspace) (b : Binding) (p : Progress)
    (apart : TypeName → Prop) :
    (w.afterBuild b p).index.Reflects (w.targetsOf b.declarations) apart :=
  ((Index.reflects_empty _ apart).loadMods (w.environmentOf b).mods).markLoaded

/-- Once a build is complete, the index reflects the declarations as far as it did before. -/
theorem Workspace.reflects_settled (w : Workspace) (b : Binding) {p : Progress}
    {apart : TypeName → Prop} (h : p.index.Reflects (w.targetsOf b.declarations) apart) :
    (w.settled b p).index.Reflects (w.targetsOf b.declarations) apart := by
  rw [settled]
  split
  · exact h
  · exact w.reflects_afterBuild b p apart

/-- While nobody is building, the question for augmentations is answered from an index that
reflects all declarations, if it did so before. -/
theorem Workspace.perform_augmentations {w : Workspace} {project : String} {g : Generation}
    {r : Registration} {target : TypeName} {d : Declaration}
    (inForce : w.current? project = some g) (known : w.registration? g = some r)
    (idle : r.progress.phase ≠ .loading)
    (reflects : r.progress.index.Reflects (w.targetsOf r.binding.declarations) fun _ => False)
    (declared : (w.catalogue r.binding.declarations).find? target = some d)
    (named : d.name = target) :
    ∃ u r', w.perform readResource (.augmentations project target) =
        some (.augmentations (u.augmentationsByAll r' d), u) ∧
      u.current? project = some g ∧ u.registration? g = some r' := by
  have work := Work.yields_augmentations inForce known (isCurrent_of_current inForce) (Or.inr idle)
    target
  have settled := w.reflects_settled r.binding reflects
  rw [Index.Reflects.augmentationsOf_eq settled declared named] at work
  have answers : (Operation.augmentations project target).work.Yields w _ _ :=
    .bind work (.pure (Answer.ofResult .augmentations _) _)
  refine ⟨w.modify g (w.settled r.binding), r.modify (w.settled r.binding),
    perform_of_yields answers, inForce, ?_⟩
  rw [registration?_modify_self, known]
  rfl

/-! ### Unreported changes -/

namespace Session

/-- An event that lists a type has been applied to a registration in a move: its call has returned
what is stale. -/
def Reports (s s' : Session) (g : Generation) (type : TypeName) : Prop :=
  ∃ (i : Nat) (call : Call) (project : String) (types : List TypeName)
    (stale : Std.ExtTreeSet TypeName),
    s'.calls[i]? = some call ∧ s.calls[i]? ≠ some call ∧
      call.operation = .typesChanged project types ∧ type ∈ types ∧ call.bound = some g ∧
        call.work = .done (.targets stale)

/-- A type has changed its declaration since the index of a registration began to be built, and no
event that lists it has been applied since. -/
inductive Unreported (w : Workspace) (g : Generation) (declarations : String) :
    List Move → TypeName → Prop
  | edited {moves : List Move} {move : Move} {type : TypeName}
      (begun : ((start w).run moves).workspace.Begun g)
      (changed :
        (((start w).run (moves ++ [move])).workspace.catalogue declarations).find? type ≠
          (((start w).run moves).workspace.catalogue declarations).find? type) :
      Unreported w g declarations (moves ++ [move]) type
  | still {moves : List Move} {move : Move} {type : TypeName}
      (before : Unreported w g declarations moves type)
      (unlisted : ¬ ((start w).run moves).Reports ((start w).run (moves ++ [move])) g type) :
      Unreported w g declarations (moves ++ [move]) type

/-- The types that are unreported after a move. -/
theorem unreported_concat {w : Workspace} {g : Generation} {declarations : String}
    {moves : List Move} {move : Move} {type : TypeName} :
    Unreported w g declarations (moves ++ [move]) type ↔
      Unreported w g declarations moves type ∧
          ¬ ((start w).run moves).Reports ((start w).run (moves ++ [move])) g type ∨
        ((start w).run moves).workspace.Begun g ∧
          (((start w).run (moves ++ [move])).workspace.catalogue declarations).find? type ≠
            (((start w).run moves).workspace.catalogue declarations).find? type := by
  constructor
  · intro unreported
    generalize run : moves ++ [move] = all at unreported
    cases unreported with
    | edited begun changed =>
        obtain ⟨rfl, rfl⟩ := List.append_singleton_inj.1 run
        exact Or.inr ⟨begun, changed⟩
    | still before unlisted =>
        obtain ⟨rfl, rfl⟩ := List.append_singleton_inj.1 run
        exact Or.inl ⟨before, unlisted⟩
  · rintro (⟨before, unlisted⟩ | ⟨begun, changed⟩)
    · exact .still before unlisted
    · exact .edited begun changed

/-- A move that is no edit makes nothing unreported. -/
theorem Unreported.of_request {w : Workspace} {g : Generation} {declarations : String}
    {moves : List Move} {move : Move} {type : TypeName}
    (h : Unreported w g declarations (moves ++ [move]) type) (request : move.isEdit = false) :
    Unreported w g declarations moves type ∧
      ¬ ((start w).run moves).Reports ((start w).run (moves ++ [move])) g type := by
  rcases unreported_concat.1 h with before | ⟨-, changed⟩
  · exact before
  · rw [run_concat, Workspace.catalogue, Workspace.catalogue,
      (tended_run w moves).catalogues_step request] at changed
    exact absurd rfl changed

theorem Unreported.of_requests {w : Workspace} {g : Generation} {declarations : String}
    {moves later : List Move} {type : TypeName}
    (h : Unreported w g declarations (moves ++ later) type)
    (requests : ∀ move ∈ later, move.isEdit = false) : Unreported w g declarations moves type := by
  induction later using List.reverseRecOn with
  | nil => rwa [List.append_nil] at h
  | append_singleton later move ih =>
      rw [← List.append_assoc] at h
      have before := (h.of_request (requests move (by simp))).1
      exact ih before fun other member => requests other (List.mem_append_left _ member)

/-- Before a build begins nothing is unreported. -/
theorem Unreported.begun {w : Workspace} {g : Generation} {declarations : String}
    {moves : List Move} {type : TypeName} (h : Unreported w g declarations moves type) :
    ((start w).run moves).workspace.Begun g := by
  have evolves (moves : List Move) (move : Move) : ((start w).run moves).workspace.Evolves
      ((start w).run (moves ++ [move])).workspace := by
    rw [run_concat]
    exact ((tended_run w moves).advances move).evolves
  induction h with
  | edited begun changed => exact begun.evolves (evolves _ _)
  | still before unlisted ih => exact ih.evolves (evolves _ _)

variable {s s' : Session} {g : Generation} {apart : TypeName → Prop}

/-- What an edit changes after the build has begun is set apart. -/
theorem reflects_of_edits (edits : s.workspace.Edits s'.workspace) (orderly : s.workspace.Orderly)
    (before : s.workspace.Reflects g apart) {r : Registration}
    (known : s'.workspace.registration? g = some r) :
    s'.workspace.Reflects g fun type => apart type ∨ s.workspace.Begun g ∧
      (s'.workspace.catalogue r.binding.declarations).find? type ≠
        (s.workspace.catalogue r.binding.declarations).find? type := by
  by_cases begun : s.workspace.Begun g
  · refine edits.reflects before fun r' known' type unchanged => ?_
    obtain rfl := Option.some.inj (known.symm.trans known')
    refine ⟨fun was => unchanged (Or.inl was), ?_⟩
    by_contra changed
    exact unchanged (Or.inr ⟨begun, changed⟩)
  · -- nothing has been built, so nothing can be out of date
    intro r' known'
    rcases edits.index_eq known' with new | ⟨r, knownR, -, -, sameIndex, -⟩
    · rw [new]
      exact Index.reflects_empty _ _
    · have unloaded : r.progress.phase = .unloaded := by
        by_contra loading
        exact begun ⟨r, knownR, loading⟩
      rw [← sameIndex, (orderly.unbuilt knownR unloaded).1]
      exact Index.reflects_empty _ _

/-- Types that an event lists are set apart no longer. -/
theorem reflects_of_work {i : Nat} {moved : Call} (at_i : s'.calls[i]? = some moved)
    (others : ∀ j, i ≠ j → s'.calls[j]? = s.calls[j]?)
    (keeps : s.workspace.Keeps s'.workspace) (tended : moved.IsTended s'.workspace)
    (before : s.workspace.Reflects g apart) :
    s'.workspace.Reflects g fun type => apart type ∧ ¬ s.Reports s' g type := by
  have isMoved {j : Nat} {call : Call} (here : s'.calls[j]? = some call)
      (fresh : s.calls[j]? ≠ some call) : call = moved := by
    by_cases same : i = j
    · subst same
      exact Option.some.inj (here.symm.trans at_i)
    · exact absurd ((others j same).symm.trans here) fresh
  by_cases reported : ∃ type, s.Reports s' g type
  · obtain ⟨-, j, call, project, types, stale, here, fresh, request, -, isBound, returned⟩ :=
      reported
    obtain rfl := isMoved here fresh
    have concludes := tended.work
    rw [returned] at concludes
    have concludes := concludes project (by rw [request]; rfl)
    rw [request, isBound] at concludes
    cases concludes with
    | retargeted inForce applied =>
        refine ((keeps.reflects before).and applied).mono fun type both => ⟨both.1, ?_⟩
        rintro ⟨k, other, project', types', stale', here', fresh', request', among, -, -⟩
        obtain rfl := isMoved here' fresh'
        rw [request] at request'
        cases request'
        exact both.2 among
  · refine (keeps.reflects before).mono fun type was => ⟨was, fun reports => ?_⟩
    exact reported ⟨type, reports⟩

/-- No event is applied in a move that is an edit. -/
theorem not_reports_of_edit {type : TypeName} (calls : ∀ (i : Nat) (call : Call),
    s'.calls[i]? = some call → s.calls[i]? = some call ∨
      call.operation.isEdit = true ∧ call.work.isSuspended = false) : ¬ s.Reports s' g type := by
  rintro ⟨i, call, project, types, stale, here, fresh, request, -⟩
  rcases calls i call here with old | ⟨edit, -⟩
  · exact fresh old
  · rw [request] at edit
    cases edit

/-- In every run an index reflects the declarations, apart from the types whose changes have not
been reported. -/
theorem reflects_run (w : Workspace) (moves : List Move) {g : Generation} {r : Registration}
    (known : ((start w).run moves).workspace.registration? g = some r) :
    ((start w).run moves).workspace.Reflects g (Unreported w g r.binding.declarations moves) := by
  induction moves using List.reverseRecOn generalizing r with
  | nil => cases known
  | append_singleton moves move ih =>
      have advances := (tended_run w moves).advances move
      rw [← run_concat] at advances
      -- a registration keeps its binding, so the declarations are the same before the move
      have before : ((start w).run moves).workspace.Reflects g
          (Unreported w g r.binding.declarations moves) := by
        intro s knownS
        obtain ⟨r', known', -, sameBinding, -⟩ := advances.evolves.registration knownS
        obtain rfl := Option.some.inj (known.symm.trans known')
        rw [sameBinding]
        exact ih knownS s knownS
      cases advances with
      | edit edits calls declares =>
          refine (reflects_of_edits edits (tended_run w moves).orderly before known).mono ?_
          rintro type (was | ⟨begun, changed⟩)
          · exact .still was (not_reports_of_edit calls)
          · exact .edited begun changed
      | work i moved at_i others keeps tended =>
          refine (reflects_of_work at_i others keeps tended before).mono ?_
          rintro type ⟨was, unlisted⟩
          exact .still was unlisted

/-- With all changes reported, the augmentations of a declared target are those by all types that
the index lists, in every session: if the question is asked while nobody is building, and whenever
a call for it returns. -/
theorem augmentations_eq_byAll (w : Workspace) (moves : List Move) {project : String}
    {g : Generation} {r : Registration} {target : TypeName} {d : Declaration}
    (inForce : ((start w).run moves).workspace.current? project = some g)
    (known : ((start w).run moves).workspace.registration? g = some r)
    (reported : ∀ type, ¬ Unreported w g r.binding.declarations moves type)
    (declared : (((start w).run moves).workspace.catalogue r.binding.declarations).find? target =
      some d) (named : d.name = target) :
    (r.progress.phase ≠ .loading → ∃ u r',
      ((start w).run moves).workspace.perform Workspace.readResource
          (.augmentations project target) =
        some (.augmentations (u.augmentationsByAll r' d), u) ∧
      u.current? project = some g ∧ u.registration? g = some r') ∧
    ∀ (earlier : List Move) (move : Move) (i : Nat) (call : Call) (a : Augmentations),
      moves = earlier ++ [move] → ((start w).run moves).calls[i]? = some call →
      ((start w).run earlier).calls[i]? ≠ some call →
      call.operation = .augmentations project target → call.work = .done (.augmentations a) →
        a = ((start w).run moves).workspace.augmentationsByAll r d := by
  have reflects : r.progress.index.Reflects
      (((start w).run moves).workspace.targetsOf r.binding.declarations) fun _ => False :=
    (reflects_run w moves known r known).mono fun type _ => ⟨reported type, rfl⟩
  constructor
  · exact fun idle => Workspace.perform_augmentations inForce known idle reflects declared named
  · rintro earlier move i ⟨operation, bound, work⟩ a rfl here fresh rfl rfl
    have advances := (tended_run w earlier).advances move
    rw [← run_concat] at advances
    have concludes := advances.concludes here fresh rfl rfl
    cases concludes with
    | answered inForce' known' answers =>
        obtain rfl := Option.some.inj (inForce.symm.trans inForce')
        obtain rfl := Option.some.inj (known.symm.trans known')
        rw [Index.Reflects.augmentationsOf_eq reflects declared named] at answers
        exact Answer.augmentations.inj answers

end Session

/-! ### A reported change -/

/-- Whether an event of changed types has been applied to a registration. -/
def Call.hasRetargeted (project : String) (types : List TypeName) (g : Generation) : Call → Bool
  | ⟨.typesChanged project' types', some g', .done (.targets _)⟩ =>
    project' = project ∧ types' = types ∧ g' = g
  | _ => false

namespace Session

/-- The type that a config lists is mixed into another target, and an event is about to say so. -/
def announcing : List Move :=
  askingOnce ++ [.call (.declare "d" (.mixedInto "x.Lamp" "q.A"))] ++
    [.call (.typesChanged "p" [⟨"q.A"⟩])] ++ [.resume 3]

/-- The event has been applied. -/
def reporting : List Move := announcing ++ [.resume 3]

theorem reports_reporting :
    ((start .listingOne).run announcing).Reports ((start .listingOne).run reporting) 0
      ⟨"q.A"⟩ := by
  have before : ((start .listingOne).run announcing).calls[3]?.any (·.work.isSuspended) = true := by
    decide +kernel
  have after : ((start .listingOne).run reporting).calls[3]?.any
      (·.hasRetargeted "p" [⟨"q.A"⟩] 0) = true := by
    decide +kernel
  obtain ⟨call, here, form⟩ := (Option.any_eq_true _ _).1 after
  unfold Call.hasRetargeted at form
  split at form
  · obtain ⟨rfl, rfl, rfl⟩ := of_decide_eq_true form
    refine ⟨3, _, "p", _, _, here, fun same => ?_, rfl, List.mem_cons_self, rfl, rfl⟩
    rw [same] at before
    cases before
  · cases form

theorem not_unreported_reporting (type : TypeName) :
    ¬ Unreported .listingOne 0 "d" reporting type := by
  intro unreported
  obtain ⟨unreported, unlisted⟩ := unreported.of_request rfl
  obtain ⟨unreported, -⟩ := unreported.of_request rfl
  obtain ⟨unreported, -⟩ := unreported.of_request rfl
  rcases unreported_concat.1 unreported with ⟨unreported, -⟩ | ⟨-, changed⟩
  · -- nothing has changed before the index was there
    have registered : Unreported .listingOne 0 "d" [.call (.register "p" ⟨"s", [], "d"⟩)] type :=
      unreported.of_requests (by decide)
    obtain ⟨r, known, begun⟩ := registered.begun
    cases known
    exact begun rfl
  · by_cases reported : type = ⟨"q.A"⟩
    · subst reported
      exact unlisted reports_reporting
    · have declared := ((start .listingOne).run askingOnce).workspace.redeclares_insert "d"
        (.mixedInto "x.Lamp" "q.A")
      rw [run_concat] at changed
      apply changed
      apply declared.declarations type
      intro member
      exact reported (List.mem_singleton.1 member)

/-- The target is found that the type names now. -/
theorem augmentations_eq_byAll_reporting :
    ∃ (u : Workspace) (r : Registration) (d : Declaration),
      ((start .listingOne).run reporting).workspace.perform Workspace.readResource
          (.augmentations "p" ⟨"x.Lamp"⟩) = some (.augmentations (u.augmentationsByAll r d), u) ∧
        u.current? "p" = some 0 ∧ u.registration? 0 = some r ∧ d.name = ⟨"x.Lamp"⟩ := by
  have inForce : ((start .listingOne).run reporting).workspace.current? "p" = some 0 := by
    decide +kernel
  have built : (((start .listingOne).run reporting).workspace.registration? 0).any (fun r =>
      r.progress.phase = .loaded ∧ r.binding.declarations = "d") = true := by
    decide +kernel
  have found : ((((start .listingOne).run reporting).workspace.catalogue "d").find?
      ⟨"x.Lamp"⟩).any (·.name = ⟨"x.Lamp"⟩) = true := by
    decide +kernel
  obtain ⟨r, known, holds⟩ := (Option.any_eq_true _ _).1 built
  obtain ⟨loaded, declarations⟩ := of_decide_eq_true holds
  obtain ⟨d, declared, named⟩ := (Option.any_eq_true _ _).1 found
  rw [← declarations] at declared
  have answered := (augmentations_eq_byAll .listingOne reporting inForce known (fun type => by
    rw [declarations]
    exact not_unreported_reporting type) declared (of_decide_eq_true named)).1
  obtain ⟨u, r', performed, inForce', known'⟩ := answered (by simp [loaded])
  exact ⟨u, r', d, performed, inForce', known', of_decide_eq_true named⟩

end Session

end MixinIndex
