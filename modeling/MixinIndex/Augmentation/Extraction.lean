import MixinIndex.Augmentation.Entry
import MixinIndex.Config.Basic
import MixinIndex.Declaration.Basic
import MixinIndex.Specifier.Parser
import MixinIndex.Text.LowerCase
import MixinIndex.Text.Word

/-!
# Extraction of entries

What an augmenting type says about its targets: the classes it targets, and one entry for each
use of a handler.

## Main definitions

* `Declaration.mixinTargets`: the target classes, sorted and without repetition
* `derivedName?`: the target name that a handler's name implies
* `Declaration.extract`: the entries of all methods, and the specifiers that cannot be read
-/

namespace MixinIndex

open Augmentation Text

/-! ### Target classes -/

/-- The target classes of an augmenting type: the classes under `value` and the names under
`targets` of its mixin annotation. -/
def Declaration.targetSet (d : Declaration) (names : AnnotationNames) :
    Std.ExtTreeSet TypeName :=
  match d.annotation? names.mixin with
  | none => ∅
  | some mixin =>
    .ofList (((mixin.types? "value").getD []) ++
      ((mixin.strings? "targets").getD []).map TypeName.ofText)

/-- The target classes in order. -/
def Declaration.mixinTargets (d : Declaration) (names : AnnotationNames) : List TypeName :=
  (d.targetSet names).toList

/-! ### Names implied by handlers -/

/-- The characters of a handler's name that a target's name can consist of. -/
def isHandlerChar (c : Char) : Bool := isWord c || c == '$' || c == '-'

/-- The rest of a text that starts with one of the given words. -/
def afterWord? (words : List String) (cs : List Char) : Option (List Char) :=
  words.findSome? fun word =>
    if word.toList.isPrefixOf cs then some (cs.drop word.length) else none

/-- The target name implied by a handler's name: what follows one of the given words, at least
two characters, the first of them in lower case. -/
def derivedName? (words : List String) (handler : String) : Option String :=
  match afterWord? words handler.toList with
  | some (first :: second :: rest) =>
    if (first :: second :: rest).all isHandlerChar then
      some (String.ofList (lower first ++ second :: rest))
    else none
  | _ => none

/-- The words that the names of accessors start with. -/
def accessorWords : List String := ["get", "set", "is"]

/-- The words that the names of invokers start with. -/
def invokerWords : List String := ["call", "invoke"]

/-- The text under the key `value`, if it is not empty. -/
def Annotation.explicitValue? (a : Annotation) : Option String :=
  (a.string? "value").filter (!·.isEmpty)

/-- The field of an accessor: the one its annotation names, else the one its own name implies. -/
def accessorTarget? (accessor : Annotation) (handlerName : String) : Option String :=
  match accessor.explicitValue? with
  | some value => some value
  | none => derivedName? accessorWords handlerName

/-- The specifier of an invoker: a name followed by the handler's descriptor, unless its
annotation gives a descriptor too. -/
def invokerTarget? (invoker : Annotation) (handler : Handler) : Option String :=
  match invoker.explicitValue? with
  | some value =>
    if '(' ∈ value.toList then some value else some (value ++ handler.descriptor.text)
  | none => (derivedName? invokerWords handler.name).map (· ++ handler.descriptor.text)

/-! ### Entries -/

/-- The entries of an augmenting type and the specifiers that cannot be read. -/
structure Extraction where
  entries : List Entry := []
  diagnostics : List Diagnostic := []

namespace Extraction

/-- What two extractions found, one after the other. -/
def append (a b : Extraction) : Extraction :=
  ⟨a.entries ++ b.entries, a.diagnostics ++ b.diagnostics⟩

/-- What several extractions found, one after the other. -/
def concat (parts : List Extraction) : Extraction := parts.foldr append {}

/-- One entry. -/
def single (kind : Kind) (handler : Handler) (target : Target) : Extraction :=
  { entries := [⟨kind, handler, target⟩] }

/-- The report of a specifier that cannot be read. -/
def unreadable (handler : Handler) (e : SyntaxError) : Diagnostic :=
  ⟨.syntaxError, e.raw, e.fault.reason ++ " at offset " ++ toString e.position ++
    " (handler " ++ handler.display ++ ")"⟩

/-- The entry of a specifier, or the report that it cannot be read. -/
def ofSpecifier (kind : Kind) (handler : Handler) (raw : String) : Extraction :=
  match Specifier.parseText raw with
  | .ok spec => single kind handler (.specifier spec)
  | .error e => { diagnostics := [unreadable handler e] }

/-- The entry of an overwriting method. -/
def ofOverwrite (names : AnnotationNames) (handler : Handler) (m : Member) : Extraction :=
  match m.annotation? names.overwrite with
  | some _ => single .overwrite handler (.name m.name)
  | none => {}

/-- The entry of an accessor. -/
def ofAccessor (names : AnnotationNames) (handler : Handler) (m : Member) : Extraction :=
  match (m.annotation? names.accessor).bind (accessorTarget? · m.name) with
  | some field => single .accessor handler (.name field)
  | none => {}

/-- The entry of an invoker. -/
def ofInvoker (names : AnnotationNames) (handler : Handler) (m : Member) : Extraction :=
  match (m.annotation? names.invoker).bind (invokerTarget? · handler) with
  | some raw => ofSpecifier .invoker handler raw
  | none => {}

/-- The entries of one injector annotation, one for each specifier. -/
def ofInjector (handler : Handler) (m : Member) (injector : String) : Extraction :=
  match m.annotation? injector with
  | some found =>
    concat (((found.strings? "method").getD []).map
      (ofSpecifier (.ofInjector injector) handler))
  | none => {}

/-- The entries of one method: overwrite, accessor, invoker, then the injectors in their
configured order. -/
def ofMethod (names : AnnotationNames) (augmentingType : TypeName) (m : Member) : Extraction :=
  let handler := Handler.ofMember augmentingType m
  concat ([ofOverwrite names handler m, ofAccessor names handler m, ofInvoker names handler m] ++
    names.injectors.map (ofInjector handler m))

@[simp] theorem concat_nil : concat [] = {} := rfl

@[simp] theorem concat_cons (part : Extraction) (parts : List Extraction) :
    concat (part :: parts) = part.append (concat parts) := rfl

theorem entries_concat (parts : List Extraction) :
    (concat parts).entries = parts.flatMap (·.entries) := by
  induction parts with
  | nil => rfl
  | cons p ps ih => simp [append, ih]

theorem diagnostics_concat (parts : List Extraction) :
    (concat parts).diagnostics = parts.flatMap (·.diagnostics) := by
  induction parts with
  | nil => rfl
  | cons p ps ih => simp [append, ih]

end Extraction

/-- The entries of all methods of an augmenting type. -/
def Declaration.extract (d : Declaration) (names : AnnotationNames) : Extraction :=
  Extraction.concat (d.methods.map (Extraction.ofMethod names d.name))

end MixinIndex
