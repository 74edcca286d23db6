import Mathlib.Data.List.Perm.Basic
import MixinIndex.Proofs.Contribution.Changes
import MixinIndex.Proofs.Contribution.Reading

/-!
# Loading configs one by one

A config is loaded as a whole or not at all, and what several configs leave behind does not depend
on the order in which they are loaded or on those that are of no use.  Each load puts in place what
one config contributes, so the map that the index represents says the same of every config whatever
came before or after; and the map determines the index with all its counts.

## Main definitions

* `Index.Arises`: the indexes that operations lead to
* `Loader.file`: the file of a config, or why it is of no use
* `Loader.contribution?`: what a config contributes

## Main statements

* `Loader.run_load`: a load in one piece
* `Loader.represents_loadAll`: what several loads do to the map
* `Loader.loadAll_inTurn`: failure, order and repetition
-/

namespace MixinIndex

/-- The indexes that operations lead to from an empty one. -/
inductive Index.Arises : Index → Prop
  | empty : Arises {}
  | change {x : Index} (h : x.Arises) (c : Change) : Arises (x.change c).2
  | markLoaded {x : Index} (h : x.Arises) : Arises x.markLoaded

/-- An index that arises is exact for some map of contributions. -/
theorem Index.Arises.exists_represents {x : Index} (h : x.Arises) :
    ∃ m : Contributions, x.Represents m := by
  induction h with
  | empty => exact ⟨∅, represents_empty⟩
  | change _ c ih =>
      obtain ⟨m, represents⟩ := ih
      exact ⟨_, (represents.change c).2⟩
  | markLoaded _ ih =>
      obtain ⟨m, represents⟩ := ih
      exact ⟨m, represents.markLoaded⟩

namespace Loader

variable {names : AnnotationNames} {c : Catalogue} {read : String → Except Failure String}

/-! ### One config -/

/-- The file of a config, or why it is of no use: it cannot be read, is no JSON or has the wrong
shape. -/
def file (read : String → Except Failure String) (config : String) : Except Failure ConfigFile := do
  let text ← read config
  ConfigFile.ofText config text

/-- What a config contributes, if it is of use. -/
def contribution? (names : AnnotationNames) (c : Catalogue)
    (read : String → Except Failure String) (config : String) : Option Contribution :=
  (file read config).toOption.map fun file => file.contribution (c.targetsOf names)

/-- A config is loaded if its file is of use, and otherwise the index is as it was. -/
theorem run_load (config : String) (x : Index) :
    (load names c read config).run.run x =
      match file read config with
      | .ok file =>
        let (count, y) := x.replace config file.augmentingTypes (c.entriesOf names file)
        (.ok count, y)
      | .error failure => (.error failure, x) := by
  rw [load, file]
  cases arrived : read config with
  | error failure => rfl
  | ok text =>
      show ((liftM (ConfigFile.ofText config text) : Loader ConfigFile) >>= fun file =>
        modifyGet (·.replace config file.augmentingTypes (c.entriesOf names file))).run.run x =
          match ConfigFile.ofText config text with
          | .ok file => _
          | .error failure => _
      cases ConfigFile.ofText config text with
      | error failure => rfl
      | ok file => rfl

/-- What a load leaves behind is what an attempt leaves behind. -/
theorem run_load_snd (config : String) (x : Index) :
    ((load names c read config).run.run x).2 = x.tryLoad names c config (read config) := by
  have atOnce : x.load names c config (read config) = (file read config).map fun file =>
      x.replace config file.augmentingTypes (c.entriesOf names file) := by
    rw [Index.load, file]
    cases read config with
    | error failure => rfl
    | ok text => rfl
  rw [run_load, Index.tryLoad, atOnce]
  cases file read config with
  | error failure => rfl
  | ok file => rfl

/-- Whether a config is loaded does not depend on the index. -/
theorem isOk_run_load (config : String) (x : Index) :
    ((load names c read config).run.run x).1.isOk = (file read config).isOk := by
  rw [run_load]
  cases file read config with
  | error failure => rfl
  | ok file => rfl

/-- What a config contributes, from its text. -/
theorem contribution?_eq (config : String) :
    contribution? names c read config =
      ((read config).toOption.bind fun text => (ConfigFile.ofText config text).toOption).map
        fun file => file.contribution (c.targetsOf names) := by
  rw [contribution?, file]
  cases read config with
  | error failure => rfl
  | ok text => rfl

/-- A load puts in place what the config contributes. -/
theorem represents_load {x : Index} {m : Contributions} (h : x.Represents m) (config : String) :
    ((load names c read config).run.run x).2.Represents
      (m.load config (contribution? names c read config)) := by
  rw [run_load_snd, contribution?_eq]
  exact h.tryLoad names c config (read config)

/-! ### Several configs -/

theorem loadAll_cons_fst (config : String) (configs : List String) (x : Index) :
    ((loadAll names c read (config :: configs)).run x).1 =
      let loaded := (load names c read config).run.run x
      let others := ((loadAll names c read configs).run loaded.2).1
      if loaded.1.isOk then others + 1 else others :=
  rfl

theorem loadAll_cons_snd (config : String) (configs : List String) (x : Index) :
    ((loadAll names c read (config :: configs)).run x).2 =
      ((loadAll names c read configs).run ((load names c read config).run.run x).2).2 :=
  rfl

/-- The configs that are of use are counted. -/
theorem loadAll_fst (configs : List String) (x : Index) :
    ((loadAll names c read configs).run x).1 =
      (configs.filter fun config => (file read config).isOk).length := by
  induction configs generalizing x with
  | nil => rfl
  | cons config configs ih =>
      rw [loadAll_cons_fst, List.filter_cons]
      simp only [isOk_run_load, ih]
      split_ifs
      · rfl
      · rfl

/-- Several loads put in place what each config contributes. -/
theorem represents_loadAll {x : Index} {m : Contributions} (h : x.Represents m)
    (configs : List String) :
    ((loadAll names c read configs).run x).2.Represents
      (configs.foldl (fun m config => m.load config (contribution? names c read config)) m) := by
  induction configs generalizing x m with
  | nil => exact h
  | cons config configs ih => exact ih (represents_load h config)

theorem isLoaded_loadAll (configs : List String) (x : Index) :
    ((loadAll names c read configs).run x).2.isLoaded = x.isLoaded := by
  induction configs generalizing x with
  | nil => rfl
  | cons config configs ih =>
      rw [loadAll_cons_snd, ih, run_load_snd]
      exact x.isLoaded_tryLoad names c config (read config)

/-- Configs are loaded one by one, none of them with a failure. -/
inductive InTurn (names : AnnotationNames) (c : Catalogue)
    (read : String → Except Failure String) : List String → Index → Index → Prop
  | nil {x : Index} : InTurn names c read [] x x
  | cons {config : String} {configs : List String} {count : Nat} {x y z : Index}
      (first : (load names c read config).run.run x = (.ok count, y))
      (others : InTurn names c read configs y z) : InTurn names c read (config :: configs) x z

/-- Where all configs are of use, loading them one by one is loading them all. -/
theorem inTurn_loadAll {configs : List String}
    (useful : ∀ config ∈ configs, (file read config).isOk = true) (x : Index) :
    InTurn names c read configs x ((loadAll names c read configs).run x).2 := by
  induction configs generalizing x with
  | nil => exact .nil
  | cons config configs ih =>
      have others := ih fun other member => useful other (List.mem_cons_of_mem _ member)
      have isOk : ((load names c read config).run.run x).1.isOk = true := by
        rw [isOk_run_load]
        exact useful config List.mem_cons_self
      rw [loadAll_cons_snd]
      cases loaded : (load names c read config).run.run x with
      | mk outcome y =>
          rw [loaded] at isOk
          cases outcome with
          | error failure => cases isOk
          | ok count => exact .cons loaded (others y)

/-- Lists with the same configs of use put the same in place. -/
theorem foldl_load_congr (m : Contributions) {configs others : List String}
    (same : ∀ config, (file read config).isOk = true → (config ∈ configs ↔ config ∈ others)) :
    configs.foldl (fun m config => m.load config (contribution? names c read config)) m =
      others.foldl (fun m config => m.load config (contribution? names c read config)) m := by
  refine Std.ExtTreeMap.ext_getElem? fun {k} => ?_
  rw [Contributions.getElem?_foldl_load, Contributions.getElem?_foldl_load]
  cases arrived : file read k with
  | error failure =>
      have nothing : contribution? names c read k = none := by
        rw [contribution?, arrived]
        rfl
      rw [nothing, Option.none_or, ite_self, ite_self]
  | ok file => simp only [same k (by rw [arrived]; rfl)]

/-- Loading lists with the same configs of use leaves the same index. -/
theorem loadAll_congr {x : Index} (arises : x.Arises) {configs others : List String}
    (same : ∀ config, (file read config).isOk = true → (config ∈ configs ↔ config ∈ others)) :
    ((loadAll names c read configs).run x).2 = ((loadAll names c read others).run x).2 := by
  obtain ⟨m, represents⟩ := arises.exists_represents
  refine (represents_loadAll represents configs).unique ?_ ?_
  · rw [foldl_load_congr m same]
    exact represents_loadAll represents others
  · rw [isLoaded_loadAll, isLoaded_loadAll]

theorem loadAll_append_snd (configs others : List String) (x : Index) :
    ((loadAll names c read (configs ++ others)).run x).2 =
      ((loadAll names c read others).run ((loadAll names c read configs).run x).2).2 := by
  induction configs generalizing x with
  | nil => rfl
  | cons config configs ih => exact ih _

/-- A load that fails changes nothing, and it fails if and only if the file is of no use.  Loading
several configs counts those that are loaded on their own, and it leaves the index that these leave
one by one in any order; a second time it changes nothing. -/
theorem loadAll_inTurn (names : AnnotationNames) (c : Catalogue)
    (read : String → Except Failure String) {x : Index} (arises : x.Arises) :
    (∀ config failure y, (load names c read config).run.run x = (.error failure, y) ↔
      file read config = .error failure ∧ y = x) ∧
    ∀ configs : List String,
      let useful := configs.filter fun config => ((load names c read config).run.run x).1.isOk
      let y := ((loadAll names c read configs).run x).2
      (loadAll names c read configs).run x = (useful.length, y) ∧
        (∀ order : List String, order.Perm useful → InTurn names c read order x y) ∧
        (loadAll names c read configs).run y = (useful.length, y) := by
  refine ⟨fun config failure y => ?_, fun configs => ?_⟩
  · rw [run_load]
    cases file read config with
    | error fault =>
        rw [Prod.mk.injEq, Except.error.injEq, Except.error.injEq, eq_comm (a := x)]
    | ok file => exact iff_of_false (by rintro ⟨⟩) (by rintro ⟨⟨⟩, -⟩)
  intro useful y
  have loaded : useful = configs.filter fun config => (file read config).isOk := by
    simp only [useful, isOk_run_load]
  have counted (z : Index) : ((loadAll names c read configs).run z).1 = useful.length := by
    rw [loadAll_fst, loaded]
  refine ⟨Prod.ext (counted x) rfl, fun order reordered => ?_, Prod.ext (counted y) ?_⟩
  · have members (config : String) :
        config ∈ order ↔ config ∈ configs ∧ (file read config).isOk = true := by
      rw [reordered.mem_iff, loaded, List.mem_filter]
    have same : y = ((loadAll names c read order).run x).2 :=
      loadAll_congr arises fun config isOk => by rw [members, and_iff_left isOk]
    rw [same]
    exact inTurn_loadAll (fun config member => ((members config).1 member).2) x
  · show ((loadAll names c read configs).run ((loadAll names c read configs).run x).2).2 = y
    rw [← loadAll_append_snd]
    exact loadAll_congr arises fun config _ => by rw [List.mem_append, or_self]

/-- A config takes the place of an older one, next to one of the wrong shape and a missing one. -/
theorem loadAll_inTurn_replaced :
    let read : String → Except Failure String := fun config =>
      if config = "a.json" then .ok "\x7b\"package\": \"p\", \"mixins\": [\"Own\"]\x7d"
      else if config = "b.json" then .ok "[]" else .error (.resourceNotFound "memory:src" config)
    let c : Catalogue := .empty
    let x := (({} : Index).change (.replace "a.json" [⟨"p.Old"⟩] [⟨⟨"x.Door"⟩, ⟨"p.Old"⟩⟩])).2
    let y := ((loadAll {} c read ["b.json", "a.json", "c.json"]).run x).2
    x.Arises ∧
      (load {} c read "b.json").run.run x =
        (.error (.schema "b.json" "root is not an object"), x) ∧
      (loadAll {} c read ["b.json", "a.json", "c.json"]).run x = (1, y) ∧
      InTurn {} c read ["a.json"] x y ∧
      (loadAll {} c read ["b.json", "a.json", "c.json"]).run y = (1, y) := by
  intro read c x y
  have arises : x.Arises := .change .empty _
  obtain ⟨failed, several⟩ := loadAll_inTurn {} c read arises
  obtain ⟨counted, inTurn, again⟩ := several ["b.json", "a.json", "c.json"]
  have useful : (["b.json", "a.json", "c.json"].filter fun config =>
      ((load {} c read config).run.run x).1.isOk) = ["a.json"] := by
    simp only [isOk_run_load]
    decide +kernel
  rw [useful] at counted inTurn again
  exact ⟨arises, (failed "b.json" _ x).2 ⟨rfl, rfl⟩, counted, inTurn _ (.refl _), again⟩

end Loader

end MixinIndex
