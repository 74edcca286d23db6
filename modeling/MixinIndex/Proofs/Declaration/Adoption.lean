import MixinIndex.Declaration.Edit
import MixinIndex.Proofs.Outcome

/-!
# Adopted declarations

Whatever edits a catalogue has been through, each declaration found in it is the one put in last
under its name, with the owners of its members filled in and its fields marked as such.  A text puts
in all that it lists or nothing at all.

## Main definitions

* `Declaration.IsAdopted`: what is kept of a declaration that was given
* `Declaration.Lists`, `Declaration.ListsNone`: the declarations that a text lists
* `Catalogue.Change`: one declaration put in, or one name taken out
* `Catalogue.Edit.changes`: the changes that an edit comes down to
* `Catalogue.IsLatest`: the last change under a name has put a declaration in
* `Catalogue.Reflects`: a catalogue keeps the latest declarations, adopted

## Main statements

* `Declaration.isAdopted_iff`: adoption does just that
* `Catalogue.run_load`: loading step by step and in one piece
* `Catalogue.Reflects.change`, `Catalogue.Reflects.performAll`: one change, and any edits
* `Catalogue.performAll_adopted`: what catalogues keep, and what loads do to them
-/

namespace MixinIndex

open Std (LawfulEqCmp)

/-! ### Adoption -/

/-- A member is kept as one of an owner and of a kind: a missing owner has been filled in, and all
else is as it was given. -/
structure Member.IsAdopted (owner : TypeName) (kind : Member.Kind) (given kept : Member) :
    Prop where
  filled : given.declaringType.isEmpty = true → kept.declaringType = owner
  spared : given.declaringType.isEmpty = false → kept.declaringType = given.declaringType
  kind : kept.kind = kind
  name : kept.name = given.name
  parameters : kept.parameters = given.parameters
  result : kept.result = given.result
  typeParameters : kept.typeParameters = given.typeParameters
  sourceRange : kept.sourceRange = given.sourceRange
  annotations : kept.annotations = given.annotations

/-- A declaration is kept with its members adopted: methods keep their kinds, and fields are
fields. -/
structure Declaration.IsAdopted (given kept : Declaration) : Prop where
  name : kept.name = given.name
  typeParameters : kept.typeParameters = given.typeParameters
  methods : List.Forall₂ (fun m => m.IsAdopted given.name m.kind) given.methods kept.methods
  fields : List.Forall₂ (Member.IsAdopted given.name .field) given.fields kept.fields
  annotations : kept.annotations = given.annotations

theorem Member.isAdopted_iff {owner : TypeName} {kind : Member.Kind} {given kept : Member} :
    given.IsAdopted owner kind kept ↔
      kept = { Declaration.adoptMember owner given with kind } := by
  unfold Declaration.adoptMember
  constructor
  · rintro ⟨filled, spared, rfl, name, parameters, result, typeParameters, range, annotations⟩
    cases kept
    by_cases missing : given.declaringType.isEmpty = true
    · simp_all
    · simp_all
  · rintro rfl
    by_cases missing : given.declaringType.isEmpty = true
    · rw [if_pos missing]
      exact ⟨fun _ => rfl, fun present => absurd missing (by simp [present]), rfl, rfl, rfl, rfl,
        rfl, rfl, rfl⟩
    · rw [if_neg missing]
      exact ⟨fun empty => absurd empty missing, fun _ => rfl, rfl, rfl, rfl, rfl, rfl, rfl, rfl⟩

/-- Lists are related by a function element by element if one is the image of the other. -/
theorem forall₂_iff_eq_map {α β : Type} {related : α → β → Prop} {f : α → β}
    (functional : ∀ a b, related a b ↔ b = f a) {as : List α} {bs : List β} :
    List.Forall₂ related as bs ↔ bs = as.map f := by
  induction as generalizing bs with
  | nil => simp
  | cons a as ih => simp [List.forall₂_cons_left_iff, functional, ih]

/-- What is kept of a declaration is what adoption makes of it. -/
theorem Declaration.isAdopted_iff {given kept : Declaration} :
    given.IsAdopted kept ↔ kept = given.adopt := by
  have sameKind (m : Member) : { adoptMember given.name m with kind := m.kind } =
      adoptMember given.name m := (adoptMember_withKind given.name m m.kind).symm
  have methods : List.Forall₂ (fun m => m.IsAdopted given.name m.kind) given.methods kept.methods ↔
      kept.methods = given.methods.map (adoptMember given.name) :=
    forall₂_iff_eq_map fun m _ => by rw [Member.isAdopted_iff, sameKind]
  have fields : List.Forall₂ (Member.IsAdopted given.name .field) given.fields kept.fields ↔
      kept.fields = given.fields.map fun m => { adoptMember given.name m with kind := .field } :=
    forall₂_iff_eq_map fun _ _ => by rw [Member.isAdopted_iff]
  constructor
  · rintro ⟨name, typeParameters, keptMethods, keptFields, annotations⟩
    rw [methods] at keptMethods
    rw [fields] at keptFields
    cases kept
    simp_all [adopt]
  · rintro rfl
    exact ⟨rfl, rfl, methods.2 rfl, fields.2 rfl, rfl⟩

/-! ### What a text lists -/

/-- A text is an array of the forms of some declarations. -/
def Declaration.Lists (text : String) (ds : List Declaration) : Prop :=
  ∃ items, Json.read? text = some (.array items) ∧
    List.Forall₂ (fun item d => decode? item = some d) items ds

/-- A text is no array of declarations: it is no array, or something in it is none. -/
def Declaration.ListsNone (text : String) : Prop :=
  ∀ items, Json.read? text = some (.array items) → ∃ item ∈ items, decode? item = none

namespace Declaration

theorem listOfText?_eq_some_iff {text : String} {ds : List Declaration} :
    listOfText? text = some ds ↔ Lists text ds := by
  unfold listOfText? Lists
  cases Json.read? text with
  | none => simp
  | some json => cases json <;> simp [Json.list?, List.mapM_eq_some_iff]

theorem listOfText?_eq_none_iff {text : String} : listOfText? text = none ↔ ListsNone text := by
  unfold listOfText? ListsNone
  cases Json.read? text with
  | none => simp
  | some json => cases json <;> simp [Json.list?, List.mapM_eq_none_iff]

end Declaration

namespace Catalogue

/-! ### One change after another -/

/-- A declaration is put in, or the one of a name is taken out. -/
inductive Change where
  | put (d : Declaration)
  | take (name : TypeName)

/-- The name under which something changes. -/
def Change.name : Change → TypeName
  | put d => d.name
  | take name => name

/-- The catalogue after a change. -/
def change (c : Catalogue) : Change → Catalogue
  | .put d => c.insert d
  | .take name => c.erase name

/-- The changes that an edit comes down to: a text that lists no declarations changes nothing. -/
def Edit.changes : Edit → List Change
  | insert d => [.put d]
  | remove name => [.take name]
  | load text => ((Declaration.listOfText? text).getD []).map .put

/-- The last of the changes under a name has put a declaration in. -/
def IsLatest (changes : List Change) (name : TypeName) (d : Declaration) : Prop :=
  (changes.filter (·.name = name)).getLast? = some (.put d)

/-- A catalogue keeps the latest declarations, adopted. -/
def Reflects (c : Catalogue) (changes : List Change) : Prop :=
  ∀ name kept, c.find? name = some kept ↔
    ∃ given, IsLatest changes name given ∧ given.IsAdopted kept

theorem IsLatest.name_eq {changes : List Change} {name : TypeName} {d : Declaration}
    (h : IsLatest changes name d) : d.name = name := by
  have member := List.mem_of_getLast? h
  exact of_decide_eq_true (List.mem_filter.1 member).2

/-- The last change is under the name, or leaves what is there under it. -/
theorem isLatest_concat {changes : List Change} {change : Change} {name : TypeName}
    {d : Declaration} :
    IsLatest (changes ++ [change]) name d ↔
      if change.name = name then change = .put d else IsLatest changes name d := by
  unfold IsLatest
  split_ifs with same
  · simp [same]
  · simp [same]

theorem reflects_empty : empty.Reflects [] := by
  intro name kept
  rw [find?_empty]
  exact iff_of_false nofun fun ⟨_, latest, _⟩ => nomatch latest

namespace Reflects

variable {c : Catalogue} {changes : List Change} (h : c.Reflects changes)
include h

/-- A change shows under its name, and nowhere else. -/
theorem change (change : Change) : (c.change change).Reflects (changes ++ [change]) := by
  intro name kept
  simp only [isLatest_concat]
  cases change with
  | put d =>
      show (c.insert d).find? name = some kept ↔ _
      rw [find?_insert]
      by_cases named : d.name = name
      · simp [Change.name, named, Declaration.isAdopted_iff, eq_comm]
      · simp only [Change.name, named, ↓reduceIte]
        exact h name kept
  | take removed =>
      show (c.erase removed).find? name = some kept ↔ _
      rw [find?_erase]
      by_cases named : removed = name
      · simp [Change.name, named]
      · simp only [Change.name, named, ↓reduceIte]
        exact h name kept

theorem changeAll (later : List Change) :
    (later.foldl Catalogue.change c).Reflects (changes ++ later) := by
  induction later generalizing c changes with
  | nil =>
      rw [List.append_nil]
      exact h
  | cons change later ih =>
      rw [List.append_cons]
      exact ih (h.change change)

end Reflects

/-! ### Edits -/

theorem run_putAll (ds : List Declaration) (c : Catalogue) :
    (putAll ds).run c = ((), c.insertAll ds) := by
  induction ds generalizing c with
  | nil => rfl
  | cons d ds ih => exact ih (c.insert d)

/-- Loading a text step by step is loading it in one piece: a text that is refused has put nothing
in. -/
theorem run_load (text : String) (c : Catalogue) :
    (load text).run.run c =
      match c.load? text with
      | some (count, next) => (some count, next)
      | none => (none, c) := by
  unfold load load?
  cases Declaration.listOfText? text with
  | none => rfl
  | some ds =>
      show (some ds.length, ((putAll ds).run c).2) = (some ds.length, c.insertAll ds)
      rw [run_putAll]

theorem perform_load (text : String) (c : Catalogue) :
    (Edit.load text).perform.run c =
      match c.load? text with
      | some (count, next) => (.loaded count, next)
      | none => (.refused, c) := by
  simp only [Edit.perform, StateT.run_bind, run_load]
  cases c.load? text with
  | none => rfl
  | some loaded => rfl

/-- Changes that put declarations in insert them in order. -/
theorem foldl_change_put (ds : List Declaration) (c : Catalogue) :
    (ds.map Change.put).foldl change c = c.insertAll ds := by
  rw [List.foldl_map, insertAll]
  rfl

/-- An edit makes the changes that it comes down to. -/
theorem run_perform_snd (edit : Edit) (c : Catalogue) :
    (edit.perform.run c).2 = edit.changes.foldl change c := by
  cases edit with
  | insert d => rfl
  | remove name => rfl
  | load text =>
      rw [perform_load, load?, Edit.changes]
      cases Declaration.listOfText? text with
      | none => rfl
      | some ds => exact (foldl_change_put ds c).symm

/-- Edits make the changes that they come down to, in order. -/
theorem run_performAll_snd (edits : List Edit) (c : Catalogue) :
    ((performAll edits).run c).2 = (edits.flatMap Edit.changes).foldl change c := by
  induction edits generalizing c with
  | nil => rfl
  | cons edit edits ih =>
      show ((performAll edits).run (edit.perform.run c).2).2 = _
      rw [ih, run_perform_snd, List.flatMap_cons, List.foldl_append]

theorem Reflects.performAll {c : Catalogue} {changes : List Change} (h : c.Reflects changes)
    (edits : List Edit) :
    ((Catalogue.performAll edits).run c).2.Reflects (changes ++ edits.flatMap Edit.changes) := by
  rw [run_performAll_snd]
  exact h.changeAll _

/-- Loading a text is inserting the declarations that it lists, and a text that lists none changes
nothing. -/
theorem perform_load_eq_iff {text : String} {c next : Catalogue} {answer : Edit.Answer} :
    (Edit.load text).perform.run c = (answer, next) ↔
      (∃ ds, Declaration.Lists text ds ∧ answer = .loaded ds.length ∧
        next = ((performAll (ds.map .insert)).run c).2) ∨
      Declaration.ListsNone text ∧ answer = .refused ∧ next = c := by
  have inserted (ds : List Declaration) :
      ((performAll (ds.map .insert)).run c).2 = c.insertAll ds := by
    rw [run_performAll_snd, List.flatMap_map, ← foldl_change_put, List.map_eq_flatMap]
    rfl
  simp only [inserted, ← Declaration.listOfText?_eq_some_iff,
    ← Declaration.listOfText?_eq_none_iff]
  rw [perform_load, load?]
  cases Declaration.listOfText? text with
  | none =>
      show (Edit.Answer.refused, c) = (answer, next) ↔ _
      rw [Prod.mk.injEq, eq_comm, eq_comm (a := c)]
      simp
  | some ds =>
      show (Edit.Answer.loaded ds.length, c.insertAll ds) = (answer, next) ↔ _
      rw [Prod.mk.injEq, eq_comm, eq_comm (a := c.insertAll ds)]
      simp

/-! ### What is found -/

/-- A declaration that is already there as it is can be inserted again. -/
theorem insert_eq_self {c : Catalogue} {name : TypeName} {d : Declaration}
    (found : c.find? name = some d) (named : d.name = name) (adopted : d.adopt = d) :
    c.insert d = c := by
  obtain ⟨types⟩ := c
  refine congrArg mk (Std.ExtTreeMap.ext_getElem? fun {k} => ?_)
  rw [Std.ExtTreeMap.getElem?_insert, named, adopted]
  split_ifs with same
  · obtain rfl := LawfulEqCmp.eq_of_compare same
    exact found.symm
  · rfl

/-- The names of a catalogue are in order, none of them twice. -/
theorem pairwise_names (c : Catalogue) : c.names.Pairwise fun a b => a.text < b.text := by
  refine c.types.ordered_keys.imp fun before => ?_
  exact compareOfLessAndEq_eq_lt.1 before

theorem mem_names {c : Catalogue} {name : TypeName} :
    name ∈ c.names ↔ ∃ kept, c.find? name = some kept := by
  rw [names, Std.ExtTreeMap.mem_keys, Std.ExtTreeMap.mem_iff_isSome_getElem?,
    Option.isSome_iff_exists]
  rfl

/-- After any edits of an empty catalogue there is, under each name, the declaration that was put in
last and not taken out since, with its members adopted, and putting it in once more changes nothing.
The names are in order, none of them twice.  A text that lists declarations puts them in as if they
were inserted in order, and any other text changes nothing, whatever it begins with. -/
theorem performAll_adopted (edits : List Edit) :
    let c := ((performAll edits).run empty).2
    (∀ name kept, c.find? name = some kept ↔
      ∃ given, IsLatest (edits.flatMap Edit.changes) name given ∧ given.IsAdopted kept) ∧
    (∀ name kept, c.find? name = some kept →
      kept.name = name ∧ (Edit.insert kept).perform.run c = (.replaced (some kept), c)) ∧
    (c.names.Pairwise fun a b => a.text < b.text) ∧
    (∀ name, name ∈ c.names ↔ ∃ kept, c.find? name = some kept) ∧
    ∀ text answer next, (Edit.load text).perform.run c = (answer, next) ↔
      (∃ ds, Declaration.Lists text ds ∧ answer = .loaded ds.length ∧
        next = ((performAll (ds.map .insert)).run c).2) ∨
      Declaration.ListsNone text ∧ answer = .refused ∧ next = c := by
  intro c
  have reflects : c.Reflects (edits.flatMap Edit.changes) := reflects_empty.performAll edits
  refine ⟨reflects, fun name kept found => ?_, c.pairwise_names, fun _ => mem_names,
    fun _ _ _ => perform_load_eq_iff⟩
  obtain ⟨given, latest, adopted⟩ := (reflects name kept).1 found
  obtain rfl := Declaration.isAdopted_iff.1 adopted
  have named := latest.name_eq
  refine ⟨named, ?_⟩
  show (Edit.Answer.replaced (c.find? given.name), c.insert given.adopt) = _
  rw [insert_eq_self found named given.adopt_adopt, named, found]

/-- A name is declared in two notations, and then a text is refused that begins well. -/
theorem performAll_adopted_notations :
    let text := "[\x7b\"name\":\"x/Door\"\x7d," ++
      "\x7b\"name\":\"Lx/Door;\",\"fields\":[\x7b\"name\":\"held\"\x7d]\x7d]"
    let broken := "[\x7b\"name\":\"x.Lamp\"\x7d,null]"
    let c := ((performAll [.load text, .load broken]).run empty).2
    (∃ kept, c.find? ⟨"x.Door"⟩ = some kept ∧
      kept.fields.map (·.declaringType) = [⟨"x.Door"⟩] ∧
      (Edit.insert kept).perform.run c = (.replaced (some kept), c)) ∧
    c.find? ⟨"x.Lamp"⟩ = none ∧ (Edit.load broken).perform.run c = (.refused, c) := by
  intro text broken c
  obtain ⟨found, again, -, -, loads⟩ := performAll_adopted [.load text, .load broken]
  have outline : (Declaration.listOfText? text).map (List.map fun d =>
      (d.name, d.fields.map (·.declaringType))) =
        some [(⟨"x.Door"⟩, []), (⟨"x.Door"⟩, [⟨""⟩])] := by
    decide +kernel
  have refused : Declaration.listOfText? broken = none :=
    Option.isNone_iff_eq_none.1 (by decide +kernel)
  simp only [Option.map_eq_some_iff, List.map_eq_cons_iff, List.map_eq_nil_iff,
    Prod.mk.injEq] at outline
  obtain ⟨_, listed, first, _, rfl, ⟨firstName, -⟩, second, _, rfl,
    ⟨secondName, field, _, fields, missing, rfl⟩, rfl⟩ := outline
  have changes : [Edit.load text, Edit.load broken].flatMap Edit.changes =
      [.put first, .put second] := by
    simp [Edit.changes, listed, refused]
  rw [changes] at found
  have kept : c.find? ⟨"x.Door"⟩ = some second.adopt :=
    (found _ _).2 ⟨second, by simp [IsLatest, Change.name, firstName, secondName],
      Declaration.isAdopted_iff.2 rfl⟩
  refine ⟨⟨_, kept, ?_, (again _ _ kept).2⟩, ?_, ?_⟩
  · simp [Declaration.adopt, Declaration.adoptMember, TypeName.isEmpty, fields, missing, secondName]
  · refine Option.eq_none_iff_forall_ne_some.2 fun other there => ?_
    obtain ⟨given, latest, -⟩ := (found _ _).1 there
    simp [IsLatest, Change.name, firstName, secondName] at latest
  · exact (loads broken _ _).2 (Or.inr ⟨Declaration.listOfText?_eq_none_iff.1 refused, rfl, rfl⟩)

end Catalogue

end MixinIndex
