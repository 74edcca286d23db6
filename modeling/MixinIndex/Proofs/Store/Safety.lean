import MixinIndex.Proofs.Store.Contributed
import MixinIndex.Proofs.Store.Provenance
import MixinIndex.Store.Session

/-!
# Safe work

Work for a registration may be interrupted at any reading, and the workspace may have changed when
it goes on.  It is safe if it changes nothing but the progress of this registration, keeps that
progress stemming from the evidence, and does so whatever happens meanwhile.

## Main definitions

* `Workspace.Evolves`: what holds of all changes of a workspace
* `Workspace.Touches`: only one registration is changed
* `Workspace.Sound`: all progress stems from the evidence
* `Work.Safe`: safe work, with what holds at its end

## Main statements

* `Work.Safe.bind`: one piece of safe work after the other
* `Work.Safe.advance`: what safe work does at a stretch
* `Work.Safe.stable`: suspended work remains safe whatever happens

## Design notes

The evidence is fixed beforehand: it is all that comes to registrations in a whole run.  So a
reading needs no record of its own; the work that goes on with a resource may take it that the
evidence has it.
-/

namespace MixinIndex

namespace Workspace

/-- Whether a registration is in force, put in terms of its project. -/
theorem isCurrent_eq_false {w : Workspace} {g : Generation} {r : Registration}
    (known : w.registration? g = some r) :
    w.isCurrent g = false ↔ w.current? r.project ≠ some g := by
  simp [isCurrent, known]

theorem isCurrent_of_current {w : Workspace} {project : String} {g : Generation}
    (inForce : w.current? project = some g) : w.isCurrent g = true := by
  obtain ⟨r, known, rfl⟩ := w.registry.registered inForce
  have known : w.registration? g = some r := known
  rw [isCurrent, known, Option.any_some, inForce]
  exact BEq.rfl

/-! ### Changes of a workspace -/

/-- What holds of all changes: a registration keeps its project and binding, its index never
becomes unloaded again, and once it is not in force it stays so. -/
structure Evolves (w v : Workspace) : Prop where
  config : v.config = w.config
  registration : ∀ {g : Generation} {r : Registration}, w.registration? g = some r →
    ∃ r', v.registration? g = some r' ∧ r'.project = r.project ∧ r'.binding = r.binding ∧
      (r.progress.phase ≠ .unloaded → r'.progress.phase ≠ .unloaded)
  outdated : ∀ {g : Generation}, (w.registration? g).isSome = true → w.isCurrent g = false →
    v.isCurrent g = false

namespace Evolves

variable {w v u : Workspace}

theorem refl (w : Workspace) : w.Evolves w where
  config := rfl
  registration := fun {_ r} kept => ⟨r, kept, rfl, rfl, id⟩
  outdated := fun _ outdated => outdated

theorem trans (h : w.Evolves v) (h' : v.Evolves u) : w.Evolves u where
  config := h'.config.trans h.config
  registration := by
    intro g r kept
    obtain ⟨r', kept', project', binding', phase'⟩ := h.registration kept
    obtain ⟨r'', kept'', project'', binding'', phase''⟩ := h'.registration kept'
    exact ⟨r'', kept'', project''.trans project', binding''.trans binding', phase'' ∘ phase'⟩
  outdated := by
    intro g known outdated
    obtain ⟨r, kept⟩ := Option.isSome_iff_exists.1 known
    obtain ⟨r', kept', -⟩ := h.registration kept
    exact h'.outdated (Option.isSome_iff_exists.2 ⟨r', kept'⟩) (h.outdated known outdated)

/-- A registration that is in force after a change, and is not new, was in force before. -/
theorem current_of_current (h : w.Evolves v) {project : String} {g : Generation}
    {r : Registration} (known : w.registration? g = some r)
    (inForce : v.current? project = some g) : w.current? project = some g := by
  obtain ⟨r', known', sameProject, -⟩ := h.registration known
  obtain ⟨s, knownS, named⟩ := v.registry.registered inForce
  obtain rfl := Option.some.inj (known'.symm.trans knownS)
  rw [sameProject] at named
  subst named
  by_contra lost
  have outdated := h.outdated (Option.isSome_iff_exists.2 ⟨r, known⟩)
    ((isCurrent_eq_false known).2 lost)
  rw [isCurrent_eq_false known', sameProject] at outdated
  exact outdated inForce

theorem modify (w : Workspace) (g : Generation) {f : Progress → Progress}
    (phase : ∀ p : Progress, p.phase ≠ .unloaded → (f p).phase ≠ .unloaded) :
    w.Evolves (w.modify g f) where
  config := rfl
  registration := by
    intro k r kept
    by_cases same : g = k
    · subst same
      refine ⟨r.modify f, ?_, rfl, rfl, phase r.progress⟩
      rw [registration?_modify_self, kept]
      rfl
    · refine ⟨r, ?_, rfl, rfl, id⟩
      rw [w.registration?_modify_of_ne same]
      exact kept
  outdated := by
    intro k _ outdated
    rw [isCurrent_modify]
    exact outdated

end Evolves

/-- Nothing is changed but the progress of one registration, if any. -/
structure Touches (w v : Workspace) (b : Option Generation) : Prop where
  evolves : w.Evolves v
  current : ∀ project, v.current? project = w.current? project
  others : ∀ g, b ≠ some g → v.registration? g = w.registration? g

namespace Touches

variable {w v u : Workspace} {b : Option Generation}

theorem refl (w : Workspace) (b : Option Generation) : w.Touches w b where
  evolves := .refl w
  current := fun _ => rfl
  others := fun _ _ => rfl

theorem trans (h : w.Touches v b) (h' : v.Touches u b) : w.Touches u b where
  evolves := h.evolves.trans h'.evolves
  current := fun project => (h'.current project).trans (h.current project)
  others := fun g other => (h'.others g other).trans (h.others g other)

end Touches

/-! ### Sound workspaces -/

/-- All progress stems from the evidence, and an index in force is kept as soon as it is loaded. -/
structure Sound (w : Workspace) (E : Evidence) : Prop where
  stems : ∀ {g : Generation} {r : Registration}, w.registration? g = some r →
    r.progress.Stems E w.config.metadataFile g r.binding
  kept : ∀ {g : Generation} {r : Registration}, w.registration? g = some r →
    w.isCurrent g = true → (r.progress.isKept = true ↔ r.progress.phase = .loaded)
  seen : ∀ {g : Generation}, (w.registration? g).isSome = true →
    ∀ declarations type target, target ∈ w.targetsOf declarations type →
      E.declared g declarations type target

/-- A change of one registration. -/
theorem Sound.modify {w : Workspace} {E : Evidence} (h : w.Sound E) {g : Generation}
    {r : Registration} (known : w.registration? g = some r) {f : Progress → Progress}
    (stems : (f r.progress).Stems E w.config.metadataFile g r.binding)
    (kept : w.isCurrent g = true →
      ((f r.progress).isKept = true ↔ (f r.progress).phase = .loaded)) :
    (w.modify g f).Sound E where
  stems := by
    intro k s knownS
    by_cases same : g = k
    · subst same
      rw [registration?_modify_self, known, Option.map_some, Option.some.injEq] at knownS
      subst knownS
      exact stems
    · rw [w.registration?_modify_of_ne same] at knownS
      exact h.stems knownS
  kept := by
    intro k s knownS current
    rw [isCurrent_modify] at current
    by_cases same : g = k
    · subst same
      rw [registration?_modify_self, known, Option.map_some, Option.some.injEq] at knownS
      subst knownS
      exact kept current
    · rw [w.registration?_modify_of_ne same] at knownS
      exact h.kept knownS current
  seen := by
    intro k knownK
    refine h.seen ?_
    rw [registration?_modify] at knownK
    by_cases same : g = k
    · subst same
      rw [known]
      rfl
    · rw [if_neg same] at knownK
      exact knownK

end Workspace

/-! ### Safe work -/

namespace Work

variable {α β : Type}

/-- Work is safe, for a registration or before it is clear for which, if it changes nothing but the
progress of that registration, keeps the workspace sound, reads from the sources of the binding
only, and ends as is required, whatever happens where it can be interrupted. -/
def Safe (E : Evidence) (granted : Generation → Prop)
    (Q : Option Generation → α → Workspace → Prop) :
    Work α → Option Generation → Workspace → Prop
  | done a, b, w => Q b a w
  | look next, b, w => Safe E granted Q (next w) b w
  | change f next, some g, w =>
    (∃ h, f w = w.modify g h) ∧ w.Evolves (f w) ∧ (f w).Sound E ∧
      Safe E granted Q next (some g) (f w)
  | change _ _, none, _ => False
  | resolve project next, none, w => ∀ v, w.Evolves v → v.Sound E →
    (∀ g, v.current? project = some g → granted g) →
      Safe E granted Q (next (v.current? project)) (v.current? project) v
  | resolve _ _, some _, _ => False
  | read source path next, some g, w =>
    (∃ r, w.registration? g = some r ∧ source ∈ r.binding.sources) ∧
      ∀ v, w.Evolves v → v.Sound E → ∀ resource, E.read g source path resource →
        Safe E granted Q (next resource) (some g) v
  | read _ _ _, none, _ => False
  | wait ready next, b, w => ∀ v, w.Evolves v → v.Sound E → ready v = true →
    Safe E granted Q next b v
  | restart, _, _ => True

variable {E : Evidence} {granted : Generation → Prop}
  {Q : Option Generation → β → Workspace → Prop}

theorem Safe.bind {f : α → Work β} {work : Work α} {b : Option Generation} {w : Workspace}
    (h : Safe E granted (fun b a v => Safe E granted Q (f a) b v) work b w) :
    Safe E granted Q (work >>= f) b w := by
  change Safe E granted Q (work.bind f) b w
  induction work generalizing b w with
  | done a => exact h
  | look next ih => exact ih w h
  | change g next ih =>
      cases b with
      | none => exact h
      | some k => exact ⟨h.1, h.2.1, h.2.2.1, ih h.2.2.2⟩
  | resolve project next ih =>
      cases b with
      | none => exact fun v evolves sound grant => ih _ (h v evolves sound grant)
      | some k => exact h
  | read source path next ih =>
      cases b with
      | none => exact h
      | some k => exact ⟨h.1, fun v evolves sound resource read =>
          ih resource (h.2 v evolves sound resource read)⟩
  | wait ready next ih => exact fun v evolves sound now => ih (h v evolves sound now)
  | restart => exact h

theorem Safe.mono {Q Q' : Option Generation → α → Workspace → Prop} {work : Work α}
    {b : Option Generation} {w : Workspace} (h : Safe E granted Q work b w)
    (weaker : ∀ b a v, Q b a v → Q' b a v) : Safe E granted Q' work b w := by
  induction work generalizing b w with
  | done a => exact weaker b a w h
  | look next ih => exact ih w h
  | change f next ih =>
      cases b with
      | none => exact h
      | some g => exact ⟨h.1, h.2.1, h.2.2.1, ih h.2.2.2⟩
  | resolve project next ih =>
      cases b with
      | none => exact fun v evolves sound grant => ih _ (h v evolves sound grant)
      | some g => exact h
  | read source path next ih =>
      cases b with
      | none => exact h
      | some g => exact ⟨h.1, fun v evolves sound resource read =>
          ih resource (h.2 v evolves sound resource read)⟩
  | wait ready next ih => exact fun v evolves sound now => ih (h v evolves sound now)
  | restart => exact h

variable {Q : Option Generation → α → Workspace → Prop} {work : Work α} {b : Option Generation}
  {w v : Workspace}

/-- What safe work does at a stretch touches the registration that it is for, and what remains is
safe. -/
theorem Safe.advance (h : Safe E granted Q work b w) (sound : w.Sound E) :
    w.Touches (work.advance w).2 b ∧ (work.advance w).2.Sound E ∧
      Safe E granted Q (work.advance w).1 b (work.advance w).2 := by
  induction work generalizing w with
  | look next ih => exact ih w h sound
  | change f next ih =>
      cases b with
      | none => exact h.elim
      | some g =>
          obtain ⟨⟨change, same⟩, evolves, soundAfter, rest⟩ := h
          have touches : w.Touches (f w) (some g) := by
            refine ⟨evolves, fun project => ?_, fun k other => ?_⟩
            · rw [same, w.current?_modify]
            · rw [same, w.registration?_modify_of_ne (by simpa using other)]
          obtain ⟨touches', sound', rest'⟩ := ih rest soundAfter
          exact ⟨touches.trans touches', sound', rest'⟩
  | done | resolve | read | wait | restart => exact ⟨.refl w b, sound, h⟩

/-- What safe work does when it goes on does not depend on what has happened meanwhile. -/
theorem Safe.stable (h : Safe E granted Q work b w) (suspended : work.isSuspended = true)
    (evolves : w.Evolves v) : Safe E granted Q work b v := by
  cases work with
  | done | look | change => cases suspended
  | resolve project next =>
      cases b with
      | none => exact fun u evolves' => h u (evolves.trans evolves')
      | some g => exact h
  | read source path next =>
      cases b with
      | none => exact h
      | some g =>
          obtain ⟨⟨r, known, own⟩, rest⟩ := h
          obtain ⟨r', known', -, sameBinding, -⟩ := evolves.registration known
          exact ⟨⟨r', known', sameBinding ▸ own⟩, fun u evolves' => rest u (evolves.trans evolves')⟩
  | wait ready next => exact fun u evolves' => h u (evolves.trans evolves')
  | restart => exact h

end Work

end MixinIndex
