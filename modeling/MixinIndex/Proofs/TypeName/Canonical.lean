import Mathlib.Data.List.DropRight
import MixinIndex.Contribution.Json
import MixinIndex.Declaration.Json
import MixinIndex.Proofs.Contribution.Loading
import MixinIndex.Proofs.Signature.Separators

/-!
# Canonical type names

A type name is canonical if its text, read as a type name, gives the name back.  Reading removes
blanks, then one wrapper, then slashes, in this order and once; so a name is not canonical exactly
if removing the wrapper lays open a blank or a further wrapper.

## Main definitions

* `TypeName.IsCanonical`: the name is the name of its own text
* `TypeName.Wraps`: a text is an `L…;` wrapper around something
* `TypeName.IsStripped`: a text has neither blanks at its ends nor a wrapper
* `Application.decode?`: an application as its two members are read

## Main statements

* `TypeName.isCanonical_iff`: the canonical names are the stripped texts without slashes
* `TypeName.isCanonical_ofText_iff`: which texts are read as canonical names
* `Index.mixinsFor_ofText_iff`: an index answers to the text of a target as to the target exactly
  if the target is canonical

## Design notes

Applications are only ever written, so `Application.decode?` has no counterpart in a program.  It is
there to say what the written form keeps, and reads both members as the type names of declarations
and member keys are read.
-/

namespace MixinIndex

open Text

/-! ### Trimming -/

namespace Text

theorem trimStart_eq_self_iff {cs : List Char} :
    trimStart cs = cs ↔ ∀ c ∈ cs.head?, isBlank c = false := by
  cases cs with
  | nil => simp [trimStart]
  | cons c cs =>
      cases blank : isBlank c with
      | false => simp [trimStart, blank]
      | true =>
          have shorter : (cs.dropWhile isBlank).length ≤ cs.length :=
            (List.dropWhile_sublist isBlank).length_le
          have moved : trimStart (c :: cs) ≠ c :: cs := by
            intro same
            rw [trimStart, List.dropWhile_cons_of_pos blank] at same
            rw [same, List.length_cons] at shorter
            omega
          simp [moved, blank]

theorem trimEnd_eq_self_iff {cs : List Char} :
    trimEnd cs = cs ↔ ∀ c ∈ cs.getLast?, isBlank c = false := by
  rw [trimEnd, List.reverse_eq_iff, ← List.head?_reverse]
  exact trimStart_eq_self_iff

theorem head?_trimStart (cs : List Char) : ∀ c ∈ (trimStart cs).head?, isBlank c = false :=
  trimStart_eq_self_iff.1 (List.dropWhile_idempotent isBlank cs)

theorem getLast?_trimEnd (cs : List Char) : ∀ c ∈ (trimEnd cs).getLast?, isBlank c = false := by
  rw [trimEnd, List.getLast?_reverse]
  exact head?_trimStart cs.reverse

theorem isPrefix_trimEnd (cs : List Char) : trimEnd cs <+: cs := by
  rw [trimEnd, ← List.reverse_suffix, List.reverse_reverse]
  exact List.dropWhile_suffix isBlank

/-- Trimming the end leaves the start as it is, unless nothing is left. -/
theorem head?_trim (cs : List Char) : ∀ c ∈ (trim cs).head?, isBlank c = false := by
  intro c head
  obtain ⟨rest, split⟩ := List.head?_eq_some_iff.1 head
  obtain ⟨after, whole⟩ := isPrefix_trimEnd (trimStart cs)
  apply head?_trimStart cs
  rw [← whole, show trimEnd (trimStart cs) = c :: rest from split]
  rfl

theorem getLast?_trim (cs : List Char) : ∀ c ∈ (trim cs).getLast?, isBlank c = false :=
  getLast?_trimEnd (trimStart cs)

theorem trim_eq_self_iff {cs : List Char} :
    trim cs = cs ↔
      (∀ c ∈ cs.head?, isBlank c = false) ∧ ∀ c ∈ cs.getLast?, isBlank c = false := by
  constructor
  · intro same
    rw [← same]
    exact ⟨head?_trim cs, getLast?_trim cs⟩
  · rintro ⟨start, stop⟩
    rw [trim, trimStart_eq_self_iff.2 start, trimEnd_eq_self_iff.2 stop]

theorem trim_sublist (cs : List Char) : (trim cs).Sublist cs :=
  (isPrefix_trimEnd _).sublist.trans (List.dropWhile_sublist isBlank)

end Text

namespace TypeName

open Signature (dotted dotted_eq_self slashToDot_eq_iff)

/-! ### Wrappers -/

/-- The text is a wrapper around something. -/
def Wraps (cs body : List Char) : Prop := body ≠ [] ∧ cs = 'L' :: (body ++ [';'])

/-- Neither blanks at the ends of a text nor a wrapper around it. -/
structure IsStripped (cs : List Char) : Prop where
  start : ∀ c ∈ cs.head?, isBlank c = false
  stop : ∀ c ∈ cs.getLast?, isBlank c = false
  bare : ∀ body, ¬ Wraps cs body

/-- What is removed is a wrapper, and a text is left alone only if it is none. -/
theorem unwrap_cases (cs : List Char) :
    Wraps cs (unwrap cs) ∨ (∀ body, ¬ Wraps cs body) ∧ unwrap cs = cs := by
  by_cases wrapped : ∃ body, Wraps cs body
  · obtain ⟨body, nonempty, rfl⟩ := wrapped
    refine .inl ?_
    rw [unwrap_wrapped nonempty]
    exact ⟨nonempty, rfl⟩
  · refine .inr ⟨fun body wraps => wrapped ⟨body, wraps⟩, ?_⟩
    unfold unwrap
    split
    · rename_i rest
      refine if_neg fun ⟨long, last⟩ => wrapped ⟨rest.dropLast, ?_, ?_⟩
      · rw [← List.length_pos_iff, List.length_dropLast]
        omega
      · rw [List.dropLast_append_getLast? _ last]
    · rfl

theorem unwrap_sublist (cs : List Char) : (unwrap cs).Sublist cs := by
  rcases unwrap_cases cs with ⟨-, wraps⟩ | ⟨-, same⟩
  · conv_rhs => rw [wraps]
    exact (List.sublist_append_left _ _).trans (List.sublist_cons_self _ _)
  · rw [same]

theorem unwrap_eq_self_iff {cs : List Char} : unwrap cs = cs ↔ ∀ body, ¬ Wraps cs body := by
  rcases unwrap_cases cs with wraps | ⟨bare, same⟩
  · refine iff_of_false (fun same => ?_) fun bare => bare _ wraps
    have longer := congrArg List.length wraps.2
    rw [same, List.length_cons, List.length_append] at longer
    omega
  · exact iff_of_true same bare

/-- Neither trimming nor unwrapping takes anything away from a stripped text. -/
theorem IsStripped.unwrap_trim {cs : List Char} (stripped : IsStripped cs) :
    unwrap (trim cs) = cs := by
  rw [trim_eq_self_iff.2 ⟨stripped.start, stripped.stop⟩, unwrap_eq_self_iff.2 stripped.bare]

/-- A text that trimming and unwrapping do not shorten is stripped. -/
theorem isStripped_of_length_le {cs : List Char} (long : cs.length ≤ (unwrap (trim cs)).length) :
    IsStripped cs := by
  have unwrapped : unwrap (trim cs) = cs :=
    ((unwrap_sublist _).trans (trim_sublist cs)).eq_of_length_le long
  have trimmed : trim cs = cs := by
    refine (trim_sublist cs).eq_of_length_le ?_
    exact long.trans (unwrap_sublist _).length_le
  obtain ⟨start, stop⟩ := trim_eq_self_iff.1 trimmed
  rw [trimmed] at unwrapped
  exact ⟨start, stop, unwrap_eq_self_iff.1 unwrapped⟩

/-! ### Dots for slashes -/

theorem isBlank_slashToDot (c : Char) : isBlank (slashToDot c) = isBlank c := by
  unfold slashToDot
  split_ifs with slash
  · rw [slash]
    rfl
  · rfl

theorem Wraps.dotted {cs body : List Char} (wraps : Wraps cs body) :
    Wraps (dotted cs) (dotted body) := by
  obtain ⟨nonempty, rfl⟩ := wraps
  refine ⟨fun empty => nonempty (List.map_eq_nil_iff.1 empty), ?_⟩
  rw [Signature.dotted_cons, Signature.dotted_append]
  rfl

theorem Wraps.of_dotted {cs body : List Char} (wraps : Wraps (Signature.dotted cs) body) :
    ∃ inner, Wraps cs inner := by
  obtain ⟨nonempty, split⟩ := wraps
  obtain ⟨c, rest, rfl, isL, tail⟩ := List.map_eq_cons_iff.1 split
  obtain ⟨inner, last, rfl, rfl, stop⟩ := List.map_eq_append_iff.1 tail
  obtain ⟨d, empty, rfl, isSemicolon, nothing⟩ := List.map_eq_cons_iff.1 stop
  rw [slashToDot_eq_iff (by decide) (by decide)] at isL isSemicolon
  obtain rfl := List.map_eq_nil_iff.1 nothing
  refine ⟨inner, fun absent => nonempty (by rw [absent]; rfl), ?_⟩
  rw [isL, isSemicolon]

/-- Dots for slashes change neither blanks nor wrappers. -/
theorem isStripped_dotted {cs : List Char} : IsStripped (dotted cs) ↔ IsStripped cs := by
  have sameEnd (o : Option Char) : (∀ c ∈ o.map slashToDot, isBlank c = false) ↔
      ∀ c ∈ o, isBlank c = false := by
    cases o with
    | none => simp
    | some c => simp [isBlank_slashToDot]
  have start := sameEnd cs.head?
  have stop := sameEnd cs.getLast?
  rw [← List.head?_map] at start
  rw [← List.getLast?_map] at stop
  constructor
  · intro stripped
    exact ⟨start.1 stripped.start, stop.1 stripped.stop,
      fun body wraps => stripped.bare _ wraps.dotted⟩
  · intro stripped
    refine ⟨start.2 stripped.start, stop.2 stripped.stop, fun body wraps => ?_⟩
    obtain ⟨inner, wraps⟩ := wraps.of_dotted
    exact stripped.bare inner wraps

/-! ### Canonical names -/

/-- The name is the name of its own text. -/
def IsCanonical (name : TypeName) : Prop := ofText name.text = name

instance (name : TypeName) : Decidable name.IsCanonical :=
  inferInstanceAs (Decidable (ofText name.text = name))

theorem normalize_eq_dotted (cs : List Char) : normalize cs = dotted (unwrap (trim cs)) := rfl

/-- Normalizing leaves the stripped texts without slashes as they are, and no others. -/
theorem normalize_eq_self_iff {cs : List Char} :
    normalize cs = cs ↔ '/' ∉ cs ∧ IsStripped cs := by
  constructor
  · intro same
    have noSlash : '/' ∉ cs := same ▸ slash_notMem_normalize cs
    have long : cs.length ≤ (unwrap (trim cs)).length := by
      conv_lhs => rw [← same, normalize, List.length_map]
    exact ⟨noSlash, isStripped_of_length_le long⟩
  · rintro ⟨noSlash, stripped⟩
    rw [normalize_eq_dotted, stripped.unwrap_trim, dotted_eq_self noSlash]

/-- The canonical names are the stripped texts without slashes. -/
theorem isCanonical_iff {name : TypeName} :
    name.IsCanonical ↔ '/' ∉ name.text.toList ∧ IsStripped name.text.toList := by
  rw [← normalize_eq_self_iff, IsCanonical, ofText]
  constructor
  · intro same
    rw [← String.toList_ofList (l := normalize name.text.toList)]
    exact congrArg (·.text.toList) same
  · intro same
    rw [same, String.ofList_toList]

theorem Wraps.unwrap_eq {cs body : List Char} (wraps : Wraps cs body) : unwrap cs = body := by
  obtain ⟨nonempty, rfl⟩ := wraps
  exact unwrap_wrapped nonempty

/-- A wrapper that is removed has to be around a stripped text; without one, nothing is left to be
removed. -/
theorem isStripped_unwrap_trim_iff {cs : List Char} :
    IsStripped (unwrap (trim cs)) ↔ ∀ body, Wraps (trim cs) body → IsStripped body := by
  constructor
  · intro stripped body wraps
    rw [← wraps.unwrap_eq]
    exact stripped
  · intro within
    rcases unwrap_cases (trim cs) with wraps | ⟨bare, same⟩
    · exact within _ wraps
    · rw [same]
      exact ⟨head?_trim cs, getLast?_trim cs, bare⟩

/-- A text is read as a canonical name unless it is a wrapper around something that starts or ends
with a blank, or that is a wrapper itself. -/
theorem isCanonical_ofText_iff {text : String} :
    (ofText text).IsCanonical ↔ ∀ body, Wraps (trim text.toList) body → IsStripped body := by
  rw [isCanonical_iff, ofText, String.toList_ofList, and_iff_right (slash_notMem_normalize _),
    normalize_eq_dotted, isStripped_dotted, isStripped_unwrap_trim_iff]

/-! ### Written names -/

theorem decode?_encode (name : TypeName) : decode? name.encode = some (ofText name.text) := rfl

/-- A name that is written can be read back exactly if it is canonical. -/
theorem decode?_encode_iff {name : TypeName} :
    decode? name.encode = some name ↔ name.IsCanonical := by
  rw [decode?_encode, Option.some.injEq, IsCanonical]

end TypeName

/-- An application as its written form is read: both members are type names. -/
def Application.decode? (json : Json) : Option Application := do
  let [target, augmenting] ← json.record? ["target", "augmenting"] | none
  return {
    target := ← Json.required? TypeName.decode? target
    augmenting := ← Json.required? TypeName.decode? augmenting }

theorem Application.decode?_encode_iff {a : Application} :
    decode? a.encode = some a ↔ a.target.IsCanonical ∧ a.augmenting.IsCanonical := by
  have read : decode? a.encode = some ⟨.ofText a.target.text, .ofText a.augmenting.text⟩ := rfl
  rw [read, Option.some.injEq, Application.mk.injEq, TypeName.IsCanonical, TypeName.IsCanonical]

theorem MemberKey.decode?_encode_iff {key : MemberKey} :
    decode? key.encode = some key ↔ key.declaringType.IsCanonical := by
  have read : decode? key.encode =
      some { key with declaringType := .ofText key.declaringType.text } := by
    obtain ⟨declaringType, name, descriptor, kind⟩ := key
    have kindRead : Json.required? Member.Kind.decode? (some kind.encode) = some kind :=
      Member.Kind.ofText?_text kind
    calc decode? _
        = (Json.required? Member.Kind.decode? (some kind.encode)).bind fun kind =>
            some ⟨.ofText declaringType.text, name, descriptor, kind⟩ := rfl
      _ = some ⟨.ofText declaringType.text, name, descriptor, kind⟩ := by rw [kindRead]; rfl
  rw [read, Option.some.injEq, TypeName.IsCanonical]
  constructor
  · intro same
    exact congrArg MemberKey.declaringType same
  · intro same
    rw [same]

/-! ### Names as keys -/

/-- An index answers to the text of one of its targets as to the target itself exactly if the
target is canonical. -/
theorem Index.mixinsFor_ofText_iff {x : Index} (arises : x.Arises) {target : TypeName}
    (listed : target ∈ x.targets) :
    x.mixinsFor (.ofText target.text) = x.mixinsFor target ↔ target.IsCanonical := by
  obtain ⟨m, represents⟩ := arises.exists_represents
  rw [Index.targets, represents.keys_byTarget, Std.ExtTreeSet.mem_toList,
    Contributions.mem_targets] at listed
  obtain ⟨a, held, isTarget⟩ := listed
  have shown {name : TypeName} : a ∈ x.mixinsFor name ↔ a.target = name := by
    rw [Index.mixinsFor, Std.ExtTreeSet.mem_toList, represents.bucket_eq,
      Contributions.mem_toTarget, and_iff_left held]
  constructor
  · intro same
    have found : a ∈ x.mixinsFor (.ofText target.text) := same ▸ shown.2 isTarget
    exact (shown.1 found).symm.trans isTarget
  · intro canonical
    rw [show TypeName.ofText target.text = target from canonical]

namespace TypeName

/-- What it takes for a name to be read back as it is, from its own text, from the written form of
the name itself or of anything that holds it, and as a key of an index.  The name that a text is
read as is canonical unless the text is a wrapper around a blank end or a further wrapper. -/
theorem reread_iff (text : String) :
    let name := ofText text
    (ofText name.text = name ↔ ∀ body, Wraps (trim text.toList) body → IsStripped body) ∧
    (decode? name.encode = some name ↔ name.IsCanonical) ∧
    (∀ a : Application, Application.decode? a.encode = some a ↔
      a.target.IsCanonical ∧ a.augmenting.IsCanonical) ∧
    (∀ key : MemberKey, MemberKey.decode? key.encode = some key ↔ key.declaringType.IsCanonical) ∧
    ∀ x : Index, x.Arises → name ∈ x.targets →
      (x.mixinsFor (ofText name.text) = x.mixinsFor name ↔ name.IsCanonical) := by
  intro name
  exact ⟨isCanonical_ofText_iff, decode?_encode_iff, fun _ => Application.decode?_encode_iff,
    fun _ => MemberKey.decode?_encode_iff, fun _ arises listed =>
      Index.mixinsFor_ofText_iff arises listed⟩

/-- The field signature of a class whose name ends with a blank: the blank is kept as part of the
name, and removed when the name is read again. -/
theorem reread_iff_blank :
    let name := ofText "Lx/Door ;"
    let x := (({} : Index).replace "own.json" [] [⟨name, ofText "p.Own"⟩]).2
    name.text = "x.Door " ∧ ofText name.text ≠ name ∧ decode? name.encode ≠ some name ∧
      x.Arises ∧ name ∈ x.targets ∧ x.mixinsFor (ofText name.text) ≠ x.mixinsFor name := by
  intro name x
  have arises : x.Arises :=
    Index.Arises.empty.change (.replace "own.json" [] [⟨name, ofText "p.Own"⟩])
  have listed : name ∈ x.targets := by decide +kernel
  obtain ⟨rereads, decodes, -, -, finds⟩ := reread_iff "Lx/Door ;"
  have blank : ¬ ∀ body, Wraps (trim "Lx/Door ;".toList) body → IsStripped body := by
    intro stripped
    have wraps : Wraps (trim "Lx/Door ;".toList) "x/Door ".toList := ⟨by decide, by decide⟩
    exact absurd ((stripped _ wraps).stop ' ' (by decide)) (by decide)
  have changed : ofText name.text ≠ name := fun same => blank (rereads.1 same)
  refine ⟨by decide, changed, ?_, arises, listed, ?_⟩
  · exact fun read => changed (decodes.1 read)
  · exact fun same => changed ((finds x arises listed).1 same)

/-- One wrapper is removed at a time. -/
example : (ofText "LLx/Door;;").text = "Lx.Door;" ∧ (ofText "Lx.Door;").text = "x.Door" := by
  decide

end TypeName

end MixinIndex
