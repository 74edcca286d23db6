import MixinIndex.Proofs.Store.Undisturbed

/-!
# Failed requests

A request that fails has changed nothing, but that it may have built an index that nobody had asked
for before.  A metadata text that makes no sense does not even lead to a build.

## Main statements

* `Operation.unchanged_or_built`: what a failed request about a project leaves
* `Operation.perform_of_meaningless`: a metadata text that makes no sense is refused
* `Session.unchanged_of_failed`: both, in every session
-/

namespace MixinIndex

namespace Operation

variable {w v : Workspace} {project : String}

/-- A request about a project that fails leaves the workspace as it was, or as a request for the
index would, which had not been built. -/
theorem unchanged_or_built {operation : Operation} (about : operation.subject? = some project)
    (kept : ∀ g r, w.registration? g = some r → w.isCurrent g = true →
      (r.progress.isKept = true ↔ r.progress.phase = .loaded)) {failure : Failure}
    (failed : w.perform Workspace.readResource operation = some (.failed failure, v)) :
    v = w ∨ ∃ g r, w.current? project = some g ∧ w.registration? g = some r ∧
      v = w.modify g (w.settled r.binding) ∧ w.phase project = .unloaded ∧
      ∃ x, w.perform Workspace.readResource (.index project) = some (.index x, v) := by
  cases inForce : w.current? project with
  | none =>
      exact Or.inl (Workspace.eq_of_perform failed
        (Workspace.perform_of_unregistered about inForce))
  | some g =>
      obtain ⟨r, known, -⟩ := w.registry.registered inForce
      replace known : w.registration? g = some r := known
      have isCurrent := Workspace.isCurrent_of_current inForce
      have ends := operation.ends about inForce known
      rw [failed] at ends
      cases ends with
      | refused _ => exact Or.inl rfl
      | applied _ _ succeeds _ => exact absurd rfl (succeeds failure)
      | asked _ idle =>
          by_cases isKept : r.progress.isKept = true
          · exact Or.inl (w.modify_settled known isKept)
          · have phase : w.phase project = r.progress.phase := by
              rw [Workspace.phase, Workspace.currentRegistration?, inForce, Option.bind_some, known]
            -- nobody is building, so an index that is not there was never asked for
            have unloaded : r.progress.phase = .unloaded := by
              have notLoading := idle.resolve_left isKept
              have notLoaded := mt (kept g r known isCurrent).2 isKept
              cases here : r.progress.phase with
              | unloaded => rfl
              | loading => exact absurd here notLoading
              | loaded => exact absurd here notLoaded
            have index := Work.yields_index inForce known isCurrent idle
            exact Or.inr ⟨g, r, rfl, known, rfl, phase.trans unloaded, _,
              Workspace.perform_of_yields (.bind index (.pure _ _))⟩

/-- A metadata text that makes no sense is refused, and changes nothing. -/
theorem perform_of_meaningless (w : Workspace) (project : String) {text : String}
    {refusal : Failure} (read : Metadata.ofText text = .error refusal) :
    w.perform Workspace.readResource (.metadataChanged project text) = some (.failed
      (if w.current? project = none then .projectNotFound project else refusal), w) := by
  have refused : (Work.metadataChanged project text).Yields w (.error
      (if w.current? project = none then .projectNotFound project else refusal)) w := by
    refine .bind (.currentOf w project) ?_
    rw [read]
    cases w.current? project with
    | none => exact .pure _ w
    | some g => exact .pure _ w
  exact Workspace.perform_of_yields (.bind refused (.pure _ w))

end Operation

/-- In every session, a request about a project that fails leaves everything as it was, but that the
index of the project may have been built: then it was not there before, and a request for it would
have led to the same.  The registered projects and all that belongs to others is the same in any
case.  A metadata text that makes no sense is refused without anything being built. -/
theorem Session.unchanged_of_failed (w₀ : Workspace) (moves : List Move) :
    let w := ((start w₀).run moves).workspace
    (∀ operation project failure v, operation.subject? = some project →
      w.perform Workspace.readResource operation = some (.failed failure, v) →
      (v = w ∨ w.phase project = .unloaded ∧
        ∃ x, w.perform Workspace.readResource (.index project) = some (.index x, v)) ∧
      v.projectNames = w.projectNames ∧
      ∀ other, other ≠ project → v.currentRegistration? other = w.currentRegistration? other) ∧
    ∀ project text refusal, Metadata.ofText text = .error refusal → ∃ failure,
      w.perform Workspace.readResource (.metadataChanged project text) =
        some (.failed failure, w) := by
  intro w
  refine ⟨fun operation project failure v about failed => ?_, fun project text refusal read =>
    ⟨_, Operation.perform_of_meaningless w project read⟩⟩
  have valid : ((start w₀).run moves).Valid ((start w₀).run moves).evidence :=
    (valid_start w₀ _).run moves (.refl _)
  rcases Operation.unchanged_or_built about (fun _ _ known => valid.sound.kept known) failed with
    same | ⟨g, r, inForce, known, built, unloaded, index⟩
  · exact ⟨Or.inl same, by rw [same], fun other _ => by rw [same]⟩
  · refine ⟨Or.inr ⟨unloaded, index⟩, by rw [built]; rfl, fun other different => ?_⟩
    rw [built]
    exact Workspace.currentRegistration?_modify_of_ne different inForce _

/-- A project is registered, and nothing has been asked about it. -/
def Session.registering : List Move := [.call (.register "p" ⟨"s", [], "d"⟩)]

/-- The augmentations of a target that is not declared are asked for, and a metadata text is
announced that is no object. -/
theorem Session.unchanged_of_failed_undeclared :
    ∃ v x, ((start {}).run registering).workspace.perform Workspace.readResource
        (.augmentations "p" ⟨"x.Lamp"⟩) = some (.failed (.typeNotFound ⟨"x.Lamp"⟩), v) ∧
      ((start {}).run registering).workspace.phase "p" = .unloaded ∧ v.phase "p" = .loaded ∧
      ((start {}).run registering).workspace.perform Workspace.readResource (.index "p") =
        some (.index x, v) ∧
      ∃ failure, ((start {}).run registering).workspace.perform Workspace.readResource
          (.metadataChanged "p" "[]") =
        some (.failed failure, ((start {}).run registering).workspace) := by
  obtain ⟨unchanged, refused⟩ := unchanged_of_failed {} registering
  have failed : ∃ v, ((start {}).run registering).workspace.perform Workspace.readResource
      (.augmentations "p" ⟨"x.Lamp"⟩) = some (.failed (.typeNotFound ⟨"x.Lamp"⟩), v) ∧
        v.phase "p" = .loaded := ⟨_, rfl, rfl⟩
  obtain ⟨v, failed, loaded⟩ := failed
  have unloaded : ((start {}).run registering).workspace.phase "p" = .unloaded := rfl
  have meaningless : (Metadata.ofText "[]").isOk = false := by decide +kernel
  obtain ⟨refusal, read⟩ : ∃ refusal, Metadata.ofText "[]" = .error refusal := by
    cases read : Metadata.ofText "[]" with
    | error refusal => exact ⟨refusal, rfl⟩
    | ok metadata =>
        rw [read] at meaningless
        cases meaningless
  obtain ⟨same | ⟨-, x, index⟩, -, -⟩ := unchanged _ "p" _ v rfl failed
  · rw [same, unloaded] at loaded
    cases loaded
  · exact ⟨v, x, failed, unloaded, loaded, index, refused "p" "[]" refusal read⟩

end MixinIndex
