import MixinIndex.Config.Yaml
import MixinIndex.Proofs.Yaml.Written

/-!
# A configuration is read back from its text

Whatever texts a configuration holds, its text describes it.  The reader validates what it has read,
and the writer does not, so the text of a configuration that cannot be used is refused for the field
that the validation names.

## Main statements

* `Config.ofTree_toTree`: the tree of a configuration describes it
* `Config.ofTextBy_write`: the same for its text, in any format that the tree is read back from
* `Config.read?_toText`: the text of a configuration is read as its tree
* `Config.ofText_toText`: the text of a configuration describes it

## Design notes

The three steps of reading are apart: the text gives the tree for reasons of the format alone, the
tree gives the fields, which the writer leaves none of out, and the validation comes last.  The
format is therefore a parameter until `Config.ofText_toText`.
-/

namespace MixinIndex.Config

open Yaml (IsWord ReadsBack)

/-! ### Fields -/

/-- Fields as the entries of a mapping. -/
abbrev entriesOf (fields : List (String × Yaml)) : List (Yaml × Yaml) :=
  fields.map fun field => (.string field.1, field.2)

/-- The fields of annotation names that are written. -/
def annotationFields (names : AnnotationNames) : List (String × Yaml) :=
  [("mixin", .string names.mixin), ("overwrite", .string names.overwrite),
    ("accessor", .string names.accessor), ("invoker", .string names.invoker),
    ("injectors", .sequence (names.injectors.map .string))]

/-- The fields of a configuration that are written. -/
def writtenFields (c : Config) : List (String × Yaml) :=
  [("version", .int supportedVersion), ("metadata_file", .string c.metadataFile),
    ("project_resources", .string c.projectResources),
    ("annotations", annotationTree c.annotations)]

theorem annotationTree_eq (names : AnnotationNames) :
    annotationTree names = .mapping (entriesOf (annotationFields names)) := rfl

/-- All known fields are found again. -/
theorem fieldsOf?_entriesOf {known : List String} {fields : List (String × Yaml)}
    (named : fields.map (·.1) = known) (distinct : known.Nodup) :
    fieldsOf? known (entriesOf fields) = some fields := by
  have read (fields : List (String × Yaml)) :
      (entriesOf fields).mapM (fun entry => entry.1.text?.map (·, entry.2)) = some fields := by
    induction fields with
    | nil => rfl
    | cons field fields ih =>
        rw [entriesOf, List.map_cons, List.mapM_cons, ih]
        rfl
  unfold fieldsOf?
  rw [read]
  simp [named, distinct]

theorem mapM_text? (texts : List String) :
    (texts.map Yaml.string).mapM Yaml.text? = some texts := by
  induction texts with
  | nil => rfl
  | cons text texts ih =>
      rw [List.map_cons, List.mapM_cons, ih]
      rfl

/-! ### The tree -/

theorem annotations?_annotationFields (names : AnnotationNames) :
    annotations? (entriesOf (annotationFields names)) = some names := by
  have injectors (default : List String) : injectors? default
      (some (.sequence (names.injectors.map .string))) = some names.injectors :=
    mapM_text? names.injectors
  have named : (annotationFields names).map (·.1) =
      ["mixin", "overwrite", "accessor", "invoker", "injectors"] := rfl
  unfold annotations?
  rw [fieldsOf?_entriesOf named (by decide)]
  show (injectors? _ (some (.sequence (names.injectors.map .string)))).bind _ = _
  rw [injectors]
  rfl

theorem fields?_writtenFields (c : Config) : fields? (entriesOf c.writtenFields) = some c := by
  have annotations : optionalAnnotations? (some (annotationTree c.annotations)) =
      some (some c.annotations) := by
    rw [annotationTree_eq]
    show (annotations? _).map some = _
    rw [annotations?_annotationFields]
    rfl
  have named : c.writtenFields.map (·.1) =
      ["version", "metadata_file", "project_resources", "annotations"] := rfl
  unfold fields?
  rw [fieldsOf?_entriesOf named (by decide)]
  show (optionalAnnotations? (some (annotationTree c.annotations))).bind _ = _
  rw [annotations]
  rfl

/-- The tree of a configuration describes it, if it is valid. -/
theorem ofTree_toTree (c : Config) :
    ofTree c.toTree =
      match c.validate with
      | .ok () => .ok c
      | .error cause => .error (.invalid cause) := by
  have version : c.toTree.field? "version" = some (.int supportedVersion) := rfl
  have isMapping : c.toTree.untagged = .mapping (entriesOf c.writtenFields) := rfl
  have supported : (Yaml.int supportedVersion).nat? = some supportedVersion := rfl
  unfold ofTree
  simp only [version, supported, ne_eq, not_true_eq_false, if_false, isMapping,
    fields?_writtenFields]
  cases c.validate <;> rfl

/-! ### The text -/

/-- The configuration written in a text, for any reader of trees. -/
def ofTextBy (read? : String → Option Yaml) (text : String) : Except Error Config :=
  match read? text with
  | some tree => ofTree tree
  | none => .error .unreadableText

theorem ofTextBy_read? : ofTextBy Yaml.read? = ofText := rfl

/-- The text that is written for the tree of a configuration describes it, if it is valid, whatever
the format is: all that is asked of reader and writer is that the tree is read back. -/
theorem ofTextBy_write {read? : String → Option Yaml} {write : Yaml → String} {c : Config}
    (readsBack : read? (write c.toTree) = some c.toTree) :
    ofTextBy read? (write c.toTree) =
      match c.validate with
      | .ok () => .ok c
      | .error cause => .error (.invalid cause) := by
  rw [ofTextBy, readsBack]
  exact ofTree_toTree c

/-- The keys of a configuration are plain words. -/
theorem isWord_key : ∀ key ∈ ["version", "metadata_file", "project_resources", "annotations",
    "mixin", "overwrite", "accessor", "invoker", "injectors"], IsWord key := by
  simp only [List.forall_mem_cons, List.not_mem_nil, false_implies, implies_true, and_true]
  refine ⟨?_, ?_, ?_, ?_, ?_, ?_, ?_, ?_, ?_⟩
  all_goals exact ⟨by decide, List.all_eq_true.1 rfl, by decide, rfl⟩

theorem readsBack_version (depth : Nat) : ReadsBack true depth (.int supportedVersion) := by
  have noNull : ((toString (1 : Int)).isEmpty || Yaml.isNull (toString (1 : Int))) = false := by
    decide
  have noBool : Yaml.bool? (toString (1 : Int)) = none := by decide
  have isNumber : Yaml.integer? (toString (1 : Int)).toList = some 1 := by decide
  have isWord : Yaml.isWord 1 = true := by decide
  have isPlain : Yaml.IsPlain (toString (1 : Int)).toList := by
    show Yaml.IsPlain ['1']
    exact ⟨List.forall_mem_singleton.2 ⟨rfl, rfl⟩, rfl, rfl, ⟨'1', rfl, by decide⟩, by decide⟩
  refine .int isPlain ?_ true depth
  show Yaml.resolve? (toString (1 : Int)) = some (.int 1)
  simp only [Yaml.resolve?, noNull, noBool, isNumber, isWord]
  rfl

theorem readsBack_annotationTree (names : AnnotationNames) (depth : Nat) :
    ReadsBack true (depth + 2) (annotationTree names) := by
  refine .mapping ?_ (List.cons_ne_nil _ _) true
  refine .cons (isWord_key "mixin" (by simp)) (.text true _ _) rfl ?_
  refine .cons (isWord_key "overwrite" (by simp)) (.text true _ _) rfl ?_
  refine .cons (isWord_key "accessor" (by simp)) (.text true _ _) rfl ?_
  refine .cons (isWord_key "invoker" (by simp)) (.text true _ _) rfl ?_
  exact .cons (isWord_key "injectors" (by simp)) (.texts depth _) rfl (.nil _)

/-- The text of a configuration is read as its tree. -/
theorem read?_toText (c : Config) : Yaml.read? c.toText = some c.toTree := by
  refine Yaml.read?_write ?_ (List.cons_ne_nil _ _)
  refine .cons (isWord_key "version" (by simp)) (readsBack_version _) rfl ?_
  refine .cons (isWord_key "metadata_file" (by simp)) (.text true _ _) rfl ?_
  refine .cons (isWord_key "project_resources" (by simp)) (.text true _ _) rfl ?_
  exact .cons (isWord_key "annotations" (by simp)) (readsBack_annotationTree _ _) rfl (.nil _)

/-- The text of a configuration describes it, if it is valid; otherwise reading it reports what the
validation reports. -/
theorem ofText_toText (c : Config) :
    ofText c.toText =
      match c.validate with
      | .ok () => .ok c
      | .error cause => .error (.invalid cause) := by
  rw [← ofTextBy_read?]
  exact ofTextBy_write (read?_toText c)

end MixinIndex.Config
