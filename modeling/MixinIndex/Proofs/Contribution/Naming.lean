import MixinIndex.Proofs.Contribution.Loading
import MixinIndex.Proofs.Outcome

/-!
# The types that a config file names

A config file names types in three lists, by local names in its package.  Which list names a type,
in which spelling, how often and where makes no difference to an index: what is loaded is the set of
the types named, each with the targets of its declaration.

## Main definitions

* `ConfigFile.Names`: a text names a type in one of its lists
* `ConfigFile.namedTypes`: the types named in the three lists, one list after the other
* `ConfigFile.AreFirsts`: the members of a list, in the order in which they first appear there

## Main statements

* `ConfigFile.names_iff`: the lists of a file are those of its text
* `ConfigFile.areFirsts_augmentingTypes`: the listed types are the named ones at their first places
* `Index.replace_congr`: order and repetition mean nothing to an index
* `Loader.load_sameNames`: files that name the same types leave the same index
-/

namespace MixinIndex

namespace ConfigFile

/-! ### What a text names -/

/-- A text names a type: it is an object with a package, and there is a list under one of the three
keys that has a local name of the type in it.  A key that is absent or null names nothing. -/
def Names (text : String) (type : TypeName) : Prop :=
  ∃ (members : List (String × Json)) (package : String),
    Json.readValue? text = some (.object members) ∧
    Json.lookup? "package" members = some (.string package) ∧
    ∃ key ∈ ["mixins", "client", "server"], ∃ localNames : List String,
      Json.lookup? key members = some (.array (localNames.map .string)) ∧
      ∃ localName ∈ localNames, TypeName.qualified package localName = type

/-- The three lists of local names with their keys. -/
def lists (f : ConfigFile) : List (String × List String) :=
  [("mixins", f.mixins), ("client", f.client), ("server", f.server)]

/-- The types that the three lists name, one list after the other. -/
def namedTypes (f : ConfigFile) : List TypeName :=
  (f.mixins ++ f.client ++ f.server).map (TypeName.qualified f.package)

theorem mem_namedTypes {f : ConfigFile} {type : TypeName} :
    type ∈ f.namedTypes ↔
      ∃ key localNames, (key, localNames) ∈ f.lists ∧
        ∃ localName ∈ localNames, TypeName.qualified f.package localName = type := by
  have together : f.mixins ++ f.client ++ f.server = f.lists.flatMap (·.2) := by simp [lists]
  simp only [namedTypes, together, List.mem_map, List.mem_flatMap, Prod.exists]
  constructor
  · rintro ⟨localName, ⟨key, localNames, listed, member⟩, rfl⟩
    exact ⟨key, localNames, listed, localName, member, rfl⟩
  · rintro ⟨key, localNames, listed, localName, member, rfl⟩
    exact ⟨localName, ⟨key, localNames, listed, member⟩, rfl⟩

theorem string_eq_ok_iff {json : Json} {text : String} :
    string json = .ok text ↔ json = .string text := by
  cases json <;> simp [string, Json.string?]

theorem mapM_string_eq_ok_iff {items : List Json} {texts : List String} :
    items.mapM string = .ok texts ↔ items = texts.map .string := by
  induction items generalizing texts with
  | nil => cases texts <;> simp [pure, Except.pure]
  | cons item items ih =>
      simp only [List.mapM_cons, Except.bind_eq_ok_iff, string_eq_ok_iff, ih]
      cases texts with
      | nil => simp [pure, Except.pure]
      | cons text texts =>
          simp only [pure, Except.pure, Except.ok.injEq, List.cons.injEq, List.map_cons]
          constructor
          · rintro ⟨_, rfl, _, rfl, rfl, rfl⟩
            exact ⟨rfl, rfl⟩
          · rintro ⟨rfl, rfl⟩
            exact ⟨text, rfl, texts, rfl, rfl, rfl⟩

/-- What is read of a list are the texts in it. -/
theorem mem_of_strings_eq_ok {json : Option Json} {texts : List String}
    (read : strings json = .ok texts) {text : String} :
    (∃ listed : List String, json = some (.array (listed.map .string)) ∧ text ∈ listed) ↔
      text ∈ texts := by
  unfold strings at read
  split at read
  · cases read
    simp
  · cases read
    simp
  · rename_i items
    obtain rfl := mapM_string_eq_ok_iff.1 read
    constructor
    · rintro ⟨listed, same, member⟩
      have injective : Function.Injective Json.string := fun _ _ h => Json.string.inj h
      obtain rfl := injective.list_map (Json.array.inj (Option.some.inj same))
      exact member
    · exact fun member => ⟨texts, rfl, member⟩
  · cases read

/-- A value that may be absent is read as a text that may be. -/
theorem mapM_string_option_eq_ok_iff {json : Option Json} {text : Option String} :
    json.mapM string = .ok text ↔ json = text.map .string := by
  cases json with
  | none => cases text <;> simp [Option.mapM_none, pure, Except.pure]
  | some json =>
      rw [Option.mapM_some]
      cases text with
      | none => simp [Functor.map, Except.map_eq_ok_iff]
      | some text => simp [Functor.map, Except.map_eq_ok_iff, string_eq_ok_iff]

/-- What is read of an object are its package and its lists. -/
theorem of_ofMembers {name : String} {members : List (String × Json)} {f : ConfigFile}
    (read : ofMembers name members = .ok f) :
    Json.lookup? "package" members = some (.string f.package) ∧
      ∀ key localNames, (key, localNames) ∈ f.lists →
        strings (Json.lookup? key members) = .ok localNames := by
  simp only [ofMembers, Except.bind_eq_ok_iff, mapM_string_option_eq_ok_iff] at read
  obtain ⟨client, isClient, mixins, isMixins, package, isPackage, server, isServer, made⟩ := read
  cases package with
  | none => cases made
  | some package =>
      cases made
      refine ⟨isPackage, fun key localNames isList => ?_⟩
      simp only [lists, List.mem_cons, List.not_mem_nil, or_false, Prod.mk.injEq] at isList
      rcases isList with ⟨rfl, rfl⟩ | ⟨rfl, rfl⟩ | ⟨rfl, rfl⟩
      · exact isMixins
      · exact isClient
      · exact isServer

/-- A text that is read is an object with a package, and the lists read are those of the object. -/
theorem exists_members_of_ofText {name text : String} {f : ConfigFile}
    (read : ofText name text = .ok f) :
    ∃ members : List (String × Json), Json.readValue? text = some (.object members) ∧
      Json.lookup? "package" members = some (.string f.package) ∧
      ∀ key localNames, (key, localNames) ∈ f.lists →
        strings (Json.lookup? key members) = .ok localNames := by
  unfold ofText at read
  split at read
  · rename_i root found
    rw [Except.mapError_eq_ok_iff] at read
    cases root with
    | object members => exact ⟨members, found, of_ofMembers read⟩
    | _ => cases read
  · cases read

/-- The lists of a file name what its text names. -/
theorem names_iff {name text : String} {f : ConfigFile} (read : ofText name text = .ok f)
    {type : TypeName} : Names text type ↔ type ∈ f.namedTypes := by
  obtain ⟨members, found, isPackage, areLists⟩ := exists_members_of_ofText read
  have keys : ["mixins", "client", "server"] = f.lists.map (·.1) := rfl
  rw [mem_namedTypes]
  constructor
  · rintro ⟨others, package, foundToo, isPackageToo, key, isKey, listed, atKey, localName, member,
      rfl⟩
    rw [found, Option.some.injEq, Json.object.injEq] at foundToo
    subst foundToo
    rw [isPackage, Option.some.injEq, Json.string.injEq] at isPackageToo
    subst isPackageToo
    rw [keys, List.mem_map] at isKey
    obtain ⟨⟨_, localNames⟩, isList, rfl⟩ := isKey
    have inList := (mem_of_strings_eq_ok (areLists _ _ isList)).1 ⟨listed, atKey, member⟩
    exact ⟨_, localNames, isList, localName, inList, rfl⟩
  · rintro ⟨key, localNames, isList, localName, inList, rfl⟩
    obtain ⟨listed, atKey, member⟩ := (mem_of_strings_eq_ok (areLists _ _ isList)).2 inList
    have isKey : key ∈ ["mixins", "client", "server"] := by
      rw [keys]
      exact List.mem_map_of_mem (f := (·.1)) isList
    exact ⟨members, f.package, found, isPackage, key, isKey, listed, atKey, localName, member, rfl⟩

/-! ### Each type at its first place -/

/-- A list has the members of another one, each once and in the order in which they first appear
there. -/
structure AreFirsts (firsts types : List TypeName) : Prop where
  mem_iff : ∀ type, type ∈ firsts ↔ type ∈ types
  inOrder : firsts.Pairwise fun s t => types.idxOf s < types.idxOf t

theorem AreFirsts.nodup {firsts types : List TypeName} (h : AreFirsts firsts types) :
    firsts.Nodup := by
  refine h.inOrder.imp ?_
  rintro s _ before rfl
  exact Nat.lt_irrefl _ before

/-- One more type is put at the end if it is new, and changes nothing otherwise. -/
theorem AreFirsts.concat {seen types : List TypeName} (h : AreFirsts seen types)
    (type : TypeName) :
    AreFirsts (if type ∈ seen then seen else seen ++ [type]) (types ++ [type]) := by
  -- the places of the types that are there already stay
  have places : seen.Pairwise fun s t =>
      (types ++ [type]).idxOf s < (types ++ [type]).idxOf t := by
    refine h.inOrder.imp_of_mem fun {s t} inSeen inSeenToo before => ?_
    rwa [List.idxOf_append_of_mem ((h.mem_iff s).1 inSeen),
      List.idxOf_append_of_mem ((h.mem_iff t).1 inSeenToo)]
  split_ifs with known
  · refine ⟨fun t => ?_, places⟩
    rw [h.mem_iff, List.mem_append, List.mem_singleton]
    refine ⟨Or.inl, ?_⟩
    rintro (named | rfl)
    · exact named
    · exact (h.mem_iff t).1 known
  · have new : type ∉ types := fun named => known ((h.mem_iff type).2 named)
    refine ⟨fun t => ?_, List.pairwise_append.2 ⟨places, List.pairwise_singleton _ _, ?_⟩⟩
    · rw [List.mem_append, List.mem_append, h.mem_iff]
    · intro s inSeen t isLast
      obtain rfl := List.mem_singleton.1 isLast
      have named := (h.mem_iff s).1 inSeen
      rw [List.idxOf_append_of_mem named, List.idxOf_append_of_notMem new]
      exact Nat.lt_add_right _ (List.idxOf_lt_length_of_mem named)

/-- Keeping only the first of equal members, with some of them seen before. -/
theorem AreFirsts.foldl {seen before : List TypeName} (h : AreFirsts seen before)
    (types : List TypeName) :
    AreFirsts (types.foldl (fun seen type => if type ∈ seen then seen else seen ++ [type]) seen)
      (before ++ types) := by
  induction types generalizing seen before with
  | nil => rwa [List.append_nil]
  | cons type types ih =>
      rw [List.append_cons]
      exact ih (h.concat type)

/-- A file lists the types that it names, each once and in the order in which they are first
named. -/
theorem areFirsts_augmentingTypes (f : ConfigFile) : AreFirsts f.augmentingTypes f.namedTypes :=
  AreFirsts.foldl ⟨fun _ => Iff.rfl, .nil⟩ f.namedTypes

end ConfigFile

/-! ### What an index makes of it -/

/-- Order and repetition of what is put in place mean nothing to an index. -/
theorem Index.replace_congr (x : Index) (config : String) {types types' : List TypeName}
    {applications applications' : List Application} (sameTypes : ∀ t, t ∈ types ↔ t ∈ types')
    (sameApplications : ∀ a, a ∈ applications ↔ a ∈ applications') :
    x.replace config types applications = x.replace config types' applications' := by
  have typeSets : Std.ExtTreeSet.ofList types = Std.ExtTreeSet.ofList types' := by
    ext t
    rw [mem_ofList_set, mem_ofList_set, sameTypes]
  have applicationSets :
      Std.ExtTreeSet.ofList applications = Std.ExtTreeSet.ofList applications' := by
    ext a
    rw [mem_ofList_set, mem_ofList_set, sameApplications]
  simp only [Index.replace, typeSets, applicationSets]

theorem Catalogue.mem_entriesOf {names : AnnotationNames} {c : Catalogue} {f : ConfigFile}
    {a : Application} :
    a ∈ c.entriesOf names f ↔
      a.augmenting ∈ f.augmentingTypes ∧ a.target ∈ c.targetsOf names a.augmenting :=
  mem_ofList_set.symm.trans ConfigFile.mem_applications_contribution

/-- Two texts of a config that name the same types are loaded with the same outcome into the same
index, and what a text lists are the types that it names, each once and in the order in which they
are first named. -/
theorem Loader.load_sameNames {config text text' : String} {f f' : ConfigFile}
    (accepted : ConfigFile.ofText config text = .ok f)
    (accepted' : ConfigFile.ofText config text' = .ok f')
    (same : ∀ type, ConfigFile.Names text type ↔ ConfigFile.Names text' type)
    {read read' : String → Except Failure String} (found : read config = .ok text)
    (found' : read' config = .ok text') (names : AnnotationNames) (c : Catalogue) (x : Index) :
    (∃ count y, (load names c read config).run.run x = (.ok count, y) ∧
      (load names c read' config).run.run x = (.ok count, y)) ∧
    f.augmentingTypes.Nodup ∧
    (∀ type, type ∈ f.augmentingTypes ↔ ConfigFile.Names text type) ∧
    f.augmentingTypes.Pairwise fun s t => f.namedTypes.idxOf s < f.namedTypes.idxOf t := by
  have listed (type : TypeName) : type ∈ f.augmentingTypes ↔ ConfigFile.Names text type := by
    rw [f.areFirsts_augmentingTypes.mem_iff, ConfigFile.names_iff accepted]
  have listed' (type : TypeName) : type ∈ f'.augmentingTypes ↔ ConfigFile.Names text' type := by
    rw [f'.areFirsts_augmentingTypes.mem_iff, ConfigFile.names_iff accepted']
  have sameTypes (type : TypeName) : type ∈ f.augmentingTypes ↔ type ∈ f'.augmentingTypes := by
    rw [listed, same, listed']
  have replaced : x.replace config f.augmentingTypes (c.entriesOf names f) =
      x.replace config f'.augmentingTypes (c.entriesOf names f') := by
    refine x.replace_congr config sameTypes fun a => ?_
    rw [Catalogue.mem_entriesOf, Catalogue.mem_entriesOf, sameTypes]
  have ofUse : file read config = .ok f := by
    rw [file, found]
    exact accepted
  have ofUse' : file read' config = .ok f' := by
    rw [file, found']
    exact accepted'
  refine ⟨⟨(x.replace config f.augmentingTypes (c.entriesOf names f)).1,
    (x.replace config f.augmentingTypes (c.entriesOf names f)).2, ?_, ?_⟩,
    f.areFirsts_augmentingTypes.nodup, listed, f.areFirsts_augmentingTypes.inOrder⟩
  · rw [run_load, ofUse]
  · rw [run_load, ofUse', replaced]

/-- Two types in one list beside a null, and in two lists without a package, one of them twice. -/
theorem Loader.load_sameNames_spellings :
    let text := "\x7b\"package\": \"p\", \"mixins\": [\"Own\", \"a/Foo\"], \"server\": null\x7d"
    let text' := "\x7b\"package\": \"\", \"client\": [\"p.a.Foo\"], " ++
      "\"server\": [\"p/Own\", \"p.Own\"]\x7d"
    let mixin : Annotation := { typeName := "Mixin" }
    let c := Catalogue.empty.insert
      { name := ⟨"p.Own"⟩, annotations := [mixin.withType "value" "x.Door"] }
    let x := (({} : Index).change (.replace "b.json" [⟨"p.Own"⟩] [⟨⟨"x.Door"⟩, ⟨"p.Own"⟩⟩])).2
    (∀ type, ConfigFile.Names text type ↔ ConfigFile.Names text' type) ∧
      ∃ count y, (load {} c (fun _ => .ok text) "a.json").run.run x = (.ok count, y) ∧
        (load {} c (fun _ => .ok text') "a.json").run.run x = (.ok count, y) := by
  intro text text' mixin c x
  have accepted : (ConfigFile.ofText "a.json" text).toOption =
      some ⟨"a.json", "p", ["Own", "a/Foo"], [], []⟩ := by decide +kernel
  have accepted' : (ConfigFile.ofText "a.json" text').toOption =
      some ⟨"a.json", "", [], ["p.a.Foo"], ["p/Own", "p.Own"]⟩ := by decide +kernel
  rw [Except.toOption_eq_some_iff] at accepted accepted'
  have same (type : TypeName) :
      ConfigFile.Names text type ↔ ConfigFile.Names text' type := by
    have named : ConfigFile.namedTypes ⟨"a.json", "p", ["Own", "a/Foo"], [], []⟩ =
        [⟨"p.Own"⟩, ⟨"p.a.Foo"⟩] := by decide +kernel
    have named' : ConfigFile.namedTypes
        ⟨"a.json", "", [], ["p.a.Foo"], ["p/Own", "p.Own"]⟩ =
          [⟨"p.a.Foo"⟩, ⟨"p.Own"⟩, ⟨"p.Own"⟩] := by decide +kernel
    rw [ConfigFile.names_iff accepted, ConfigFile.names_iff accepted', named, named']
    simp only [List.mem_cons, List.not_mem_nil, or_false, or_self]
    exact or_comm
  exact ⟨same, (load_sameNames accepted accepted' same rfl rfl {} c x).1⟩

end MixinIndex
