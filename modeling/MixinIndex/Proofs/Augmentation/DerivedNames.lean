import MixinIndex.Proofs.Augmentation.Uses
import MixinIndex.Proofs.Specifier.Exact

/-!
# Derived names

What becomes of a name that a handler implies, when the handler's descriptor is put behind it and
both are read as a specifier.  The names of handlers and the names in specifiers have different
characters.  A dash can stand in a handler's name but not in a specifier's, and lower case adds no
other difference.

## Main statements

* `isNameChar_lower`: lower case keeps the characters of names
* `Derives.isNameChar`: the characters of a derived name
* `Derives.parseText_undashed`, `Derives.parseText_dashed`: how a derived name is read
* `Declaration.extract_derivedInvoker`: what becomes of an invoker by the name of its handler

## Design notes

The only table that matters here is that of the capitals.  The characters of words need not be known
in detail, because every character beyond ASCII can stand in a specifier's name.
-/

namespace MixinIndex

open Augmentation Text

/-! ### The characters of names -/

/-- Of the characters of a handler's name, only the dash cannot stand in a specifier's name. -/
theorem isNameChar_of_isHandlerChar {c : Char} (h : isHandlerChar c = true) (noDash : c ≠ '-') :
    isNameChar c = true := by
  by_cases ascii : c.toNat < 0x80
  · simp only [isHandlerChar, isWord, ascii, if_true, Bool.or_eq_true, beq_iff_eq, noDash,
      or_false] at h
    simp only [isNameChar, Bool.or_eq_true, beq_iff_eq, h, true_or]
  · simp [isNameChar, not_lt.1 ascii]

/-- The capitals of a run become characters beyond ASCII; the Kelvin sign becomes a letter. -/
theorem lower_caseRuns : ∀ run ∈ caseRuns,
    (0x80 ≤ run.first + run.shift ∧ run.last + run.shift < 0xD800) ∨
    (0xE000 ≤ run.first + run.shift ∧ run.last + run.shift < 0x110000) ∨
    run.first = 0x212A ∧ run.last = 0x212A ∧ run.shift = -8383 := by
  decide +kernel

theorem isNameChar_toLower : ∀ n < 0x80, isNameChar (Char.ofNat n) = true →
    isNameChar (Char.ofNat n).toLower = true := by
  decide +kernel

theorem isNameChar_ofNat {n : Nat} (valid : n.isValidChar) (beyond : 0x80 ≤ n) :
    isNameChar (Char.ofNat n) = true := by
  have code : (Char.ofNat n).toNat = n := by
    rw [Char.ofNat, dif_pos valid]
    rfl
  simp [isNameChar, code, beyond]

/-- Lower case keeps the characters of names. -/
theorem isNameChar_lower {c : Char} (h : isNameChar c = true) :
    ∀ l ∈ lower c, isNameChar l = true := by
  intro l mem
  unfold lower at mem
  split_ifs at mem with ascii dotted
  · obtain rfl := List.mem_singleton.1 mem
    have := isNameChar_toLower c.toNat ascii
    rw [Char.ofNat_toNat] at this
    exact this h
  · rcases List.mem_pair.1 mem with rfl | rfl <;> decide
  · split at mem
    · rename_i run found
      obtain rfl := List.mem_singleton.1 mem
      have covers := List.find?_some found
      obtain ⟨⟨above, below⟩, -⟩ : (run.first ≤ c.toNat ∧ c.toNat ≤ run.last) ∧ _ := by
        simpa only [CaseRun.covers, Bool.and_eq_true, decide_eq_true_eq] using covers
      rcases lower_caseRuns run (List.mem_of_find?_eq_some found) with
        ⟨beyond, small⟩ | ⟨beyond, small⟩ | ⟨isFirst, isLast, isShift⟩
      · exact isNameChar_ofNat (.inl (by omega)) (by omega)
      · exact isNameChar_ofNat (.inr (by omega)) (by omega)
      · have isKelvin : c.toNat = 0x212A := by omega
        rw [isKelvin, isShift]
        decide
    · obtain rfl := List.mem_singleton.1 mem
      exact h

/-- A target's name consists of characters that can stand in a specifier's name, and dashes. -/
theorem Derives.isNameChar {words : List String} {handler target : String}
    (h : Derives words handler target) {c : Char} (mem : c ∈ target.toList) (noDash : c ≠ '-') :
    MixinIndex.isNameChar c = true := by
  obtain ⟨word, -, first, rest, -, allowed, -, rfl⟩ := h
  rw [String.toList_ofList, List.mem_append] at mem
  rcases mem with mem | mem
  · by_cases isDash : first = '-'
    · rw [isDash] at mem
      exact absurd (List.mem_singleton.1 mem) noDash
    · have isName := isNameChar_of_isHandlerChar (allowed first List.mem_cons_self) isDash
      exact isNameChar_lower isName c mem
  · exact isNameChar_of_isHandlerChar (allowed c (List.mem_cons_of_mem first mem)) noDash

/-- A target's name has a dash if and only if the handler's name has one. -/
theorem Derives.dash_mem_iff {words : List String} {handler target : String}
    (h : Derives words handler target) (undashed : ∀ word ∈ words, '-' ∉ word.toList) :
    '-' ∈ target.toList ↔ '-' ∈ handler.toList := by
  obtain ⟨word, isListed, first, rest, -, allowed, split, rfl⟩ := h
  rw [split, String.toList_ofList, List.mem_append, List.mem_append, List.mem_cons,
    or_iff_right (undashed word isListed)]
  refine or_congr_left ⟨fun mem => ?_, fun isDash => ?_⟩
  · by_contra noDash
    have isName := isNameChar_of_isHandlerChar (allowed first List.mem_cons_self) (Ne.symm noDash)
    exact absurd (isNameChar_lower isName '-' mem) (by decide)
  · rw [← isDash]
    decide

/-! ### A specifier that goes on after its name -/

namespace Specifier

/-- A name has to be followed by a quantifier, a descriptor or nothing. -/
theorem parseMember_unexpected {raw : String} {owner : Option (List Char)} {offset : Nat}
    {name rest : List Char} {c : Char} (named : ∀ n ∈ name, isNameChar n = true)
    (unnamed : isNameChar c = false) (noStart : c ∉ ['<', '*', '+', '{', '(']) :
    parseMember raw owner offset (name ++ c :: rest) =
      .error (offset + byteLength name, .unexpected c) := by
  simp only [List.mem_cons, List.not_mem_nil, or_false, not_or] at noStart
  obtain ⟨noAngle, noStar, noPlus, noBrace, noParenthesis⟩ := noStart
  have nameRead : scanName offset (name ++ c :: rest) = .ok (name, c :: rest) := by
    refine scanName_of_isNameChar named fun s start => ?_
    obtain rfl := Option.some.inj start
    exact ⟨unnamed, noAngle⟩
  have noToken (offset : Nat) : scanQuantifier offset (c :: rest) = .ok ([], c :: rest) := by
    simp [scanQuantifier, noStar, noPlus, noBrace]
  have noDescriptor (offset : Nat) :
      scanDescriptor offset (c :: rest) = .error (offset, .unexpected c) := by
    simp [scanDescriptor]
  have implicit : Quantifier.parse [] = .ok .implicit := rfl
  simp only [parseMember, nameRead, noToken, implicit, noDescriptor, bind, Except.bind,
    Except.mapError, byteLength_nil, Nat.add_zero]

/-- A name with a dash in it, and a descriptor behind it, is faulty at the first dash. -/
theorem parseText_dashed {name : String} {d : Descriptor} (accepted : d.IsAccepted)
    {before after : List Char} (split : name.toList = before ++ '-' :: after)
    (named : ∀ n ∈ before, isNameChar n = true)
    (noSeparator : ∀ s ∈ ['(', '.', ';'], s ∉ name.toList) :
    parseText (name ++ d.text) =
      .error ⟨name ++ d.text, byteLength before, .unexpected '-'⟩ := by
  have text : (name ++ d.text).toList = name.toList ++ d.chars := by simp
  obtain ⟨taken, left⟩ := span_of_isDescriptor (noSeparator '(' (by decide))
    (.present (Descriptor.isAccepted_iff.1 accepted))
  rw [← text] at taken left
  have faulty : parse (name ++ d.text) = .error (byteLength before, .unexpected '-') := by
    rw [parse_eq_parseMember taken left (noSeparator '.' (by decide)) (noSeparator ';' (by decide)),
      split, List.append_assoc, List.cons_append,
      parseMember_unexpected named (by decide) (by decide), Nat.zero_add]
  rw [parseText, faulty]
  rfl

theorem IsName.dash_notMem {piece : List Char} {name : Option String} (h : IsName piece name) :
    ∀ n ∈ name, '-' ∉ n.toList := by
  rintro n isName mem
  cases h with
  | absent => cases isName
  | @identifier piece isIdentifier =>
      obtain rfl := Option.some.inj isName
      rw [String.toList_ofList] at mem
      exact absurd (isIdentifier.2 '-' mem) (by decide)
  | constructor =>
      obtain rfl := Option.some.inj isName
      exact absurd mem (by decide)
  | staticInitializer =>
      obtain rfl := Option.some.inj isName
      exact absurd mem (by decide)

/-- No specifier that is read has a name with a dash in it. -/
theorem dash_notMem_of_parseText {text name : String} {spec : Specifier}
    (read : parseText text = .ok spec) (named : spec.name = some name) : '-' ∉ name.toList := by
  rw [parseText, Except.mapError_eq_ok_iff, parse_eq_ok_iff] at read
  obtain ⟨pieces, spells⟩ := read
  exact spells.name.dash_notMem name named

end Specifier

namespace Derives

variable {words : List String} {handler target : String} {d : Descriptor}

/-- A derived name without a dash is read back, with any descriptor. -/
theorem parseText_undashed (h : Derives words handler target) (noDash : '-' ∉ target.toList)
    (accepted : d.IsAccepted) :
    Specifier.parseText (target ++ d.text) =
      .ok (Specifier.exact target d.parameters d.result) := by
  have isIdentifier : Specifier.IsIdentifier target.toList := by
    refine ⟨?_, fun c mem => h.isNameChar mem ?_⟩
    · obtain ⟨word, -, first, rest, nonempty, -, -, rfl⟩ := h
      simp [nonempty]
    · rintro rfl
      exact noDash mem
  exact Specifier.parseText_append (.inr (.inr isIdentifier)) accepted

/-- A derived name with a dash in it is faulty there. -/
theorem parseText_dashed (h : Derives words handler target) (accepted : d.IsAccepted)
    {before after : List Char} (split : target.toList = before ++ '-' :: after)
    (first : '-' ∉ before) :
    Specifier.parseText (target ++ d.text) =
      .error ⟨target ++ d.text, byteLength before, .unexpected '-'⟩ := by
  refine Specifier.parseText_dashed accepted split (fun c mem => ?_) fun s separator mem => ?_
  · refine h.isNameChar (by rw [split]; exact List.mem_append_left _ mem) ?_
    rintro rfl
    exact first mem
  · simp only [List.mem_cons, List.not_mem_nil, or_false] at separator
    rcases separator with rfl | rfl | rfl <;>
      exact absurd (h.isNameChar mem (by decide)) (by decide)

end Derives

/-! ### Invokers -/

namespace Extraction

variable {names : AnnotationNames} {augmentingType : TypeName} {m : Member}

/-- The entries of a method that are invokers are found for its annotation for that. -/
theorem filter_invokers_ofMethod :
    (ofMethod names augmentingType m).entries.filter (·.kind = .invoker) =
      (ofUse names augmentingType m .invoker).entries := by
  have uses : (Use.all names).filter (fun use => decide (use.kind = .invoker)) = [.invoker] := by
    have noInjector : ∀ injector ∈ names.injectors.map Use.injector,
        ¬ decide (injector.kind = .invoker) = true := by
      intro injector mem
      obtain ⟨name, -, rfl⟩ := List.mem_map.1 mem
      exact fun same => Kind.noConfusion (of_decide_eq_true same)
    rw [Use.all, List.filter_append, List.filter_eq_nil_iff.2 noInjector]
    rfl
  rw [filter_entries_ofMethod fun kind => decide (kind = .invoker), uses, List.flatMap_cons,
    List.flatMap_nil, List.append_nil]

end Extraction

/-- The specifier of an entry was read from a text. -/
theorem Declaration.exists_parseText_of_mem_extract {d : Declaration} {names : AnnotationNames}
    {kind : Kind} {handler : Handler} {spec : Specifier}
    (extracted : ⟨kind, handler, .specifier spec⟩ ∈ (d.extract names).entries) :
    ∃ text, Specifier.parseText text = .ok spec := by
  have read {text : String} {k : Kind} {h : Handler}
      (mem : ⟨kind, handler, .specifier spec⟩ ∈ (Extraction.ofSpecifier k h text).entries) :
      ∃ text, Specifier.parseText text = .ok spec := by
    rw [Extraction.ofSpecifier] at mem
    split at mem
    · rename_i parsed
      obtain ⟨⟩ := List.mem_singleton.1 mem
      exact ⟨text, parsed⟩
    · cases mem
  obtain ⟨m, -, use, -, a, -, text, -, mem⟩ := mem_extract_iff.1 extracted
  cases use with
  | overwrite => cases List.mem_singleton.1 mem
  | accessor => cases List.mem_singleton.1 mem
  | invoker => exact read mem
  | injector name => exact read mem

/-- What becomes of an invoker that goes by the name of its handler.  The entry of the exact
specifier of the derived name and the handler's descriptor is extracted if and only if there is no
dash in the handler's name.  If there is none, this is the method's only invoker, and all reports on
the method are about its injectors.  Otherwise the method has no invoker, and there is one more
report: that the specifier cannot be read at the first dash. -/
theorem Declaration.extract_derivedInvoker {d : Declaration} {names : AnnotationNames} {m : Member}
    (declared : m ∈ d.methods) {invoker : Annotation}
    (annotated : m.annotation? names.invoker = some invoker)
    (unnamed : ∀ value, invoker.string? "value" = some value → value = "") {name : String}
    (derives : Derives invokerWords m.name name)
    (accepted : Descriptor.IsAccepted ⟨m.parameters, m.result⟩) :
    let handler := Handler.ofMember d.name m
    let spec := Specifier.exact name m.parameters m.result
    let entry : Entry := ⟨.invoker, handler, .specifier spec⟩
    let own := Extraction.ofMethod names d.name m
    let others := names.injectors.flatMap fun injector =>
      (Extraction.ofInjector handler m injector).diagnostics
    (entry ∈ (d.extract names).entries ↔ '-' ∉ m.name.toList) ∧
    ('-' ∉ m.name.toList →
      own.entries.filter (·.kind = .invoker) = [entry] ∧ own.diagnostics = others) ∧
    ∀ before after, name.toList = before ++ '-' :: after → '-' ∉ before →
      own.entries.filter (·.kind = .invoker) = [] ∧
      own.diagnostics =
        Extraction.unreadable handler ⟨spec.raw, byteLength before, .unexpected '-'⟩ :: others := by
  intro handler spec entry own others
  have undashed : '-' ∈ name.toList ↔ '-' ∈ m.name.toList := derives.dash_mem_iff (by decide)
  have aims : Use.Aims handler invoker .invoker spec.raw := .derivedInvoker unnamed derives
  have given : Extraction.ofInvoker names handler m =
      Extraction.ofSpecifier .invoker handler spec.raw := by
    rw [Extraction.ofInvoker, annotated, Option.bind_some, Use.invokerTarget?_eq_some_iff.2 aims]
  have invokers : own.entries.filter (·.kind = .invoker) =
      (Extraction.ofSpecifier .invoker handler spec.raw).entries := by
    rw [← given]
    exact Extraction.filter_invokers_ofMethod
  have reports : own.diagnostics =
      (Extraction.ofSpecifier .invoker handler spec.raw).diagnostics ++ others := by
    rw [← given]
    exact Extraction.diagnostics_ofMethod_eq
  have readable (noDash : '-' ∉ m.name.toList) : Specifier.parseText spec.raw = .ok spec :=
    derives.parseText_undashed (fun mem => noDash (undashed.1 mem)) accepted
  refine ⟨⟨fun extracted => ?_, fun noDash => ?_⟩, fun noDash => ?_, ?_⟩
  · obtain ⟨text, read⟩ := exists_parseText_of_mem_extract extracted
    rw [← undashed]
    exact Specifier.dash_notMem_of_parseText read rfl
  · refine mem_extract_iff.2 ⟨m, declared, .invoker, ?_, invoker, annotated, spec.raw, aims, ?_⟩
    · exact List.mem_append_left _ (by decide)
    · show entry ∈ (Extraction.ofSpecifier .invoker handler spec.raw).entries
      rw [Extraction.ofSpecifier, readable noDash]
      exact List.mem_singleton_self entry
  · rw [invokers, reports, Extraction.ofSpecifier, readable noDash]
    exact ⟨rfl, rfl⟩
  · intro before after split first
    have faulty : Specifier.parseText spec.raw =
        .error ⟨spec.raw, byteLength before, .unexpected '-'⟩ :=
      derives.parseText_dashed accepted split first
    rw [invokers, reports, Extraction.ofSpecifier, faulty]
    exact ⟨rfl, rfl⟩

/-- An invoker of `foo`, and one whose name has a dash and implies a method `foo-bar`. -/
theorem Declaration.extract_derivedInvoker_foo :
    let invoker : Annotation := { typeName := "Invoker" }
    let plain : Member :=
      { name := "invokeFoo", parameters := [⟨"I"⟩], annotations := [invoker] }
    let dashed : Member := { plain with name := "invokeFoo-bar" }
    let d : Declaration := { name := ⟨"p.Own"⟩, methods := [plain, dashed] }
    ⟨.invoker, .ofMember d.name plain, .specifier (.exact "foo" [⟨"I"⟩] .void)⟩ ∈
        (d.extract .short).entries ∧
      (Extraction.ofMethod .short d.name plain).diagnostics = [] ∧
      (Extraction.ofMethod .short d.name dashed).diagnostics =
        [Extraction.unreadable (.ofMember d.name dashed) ⟨"foo-bar(I)V", 3, .unexpected '-'⟩] := by
  intro invoker plain dashed d
  have annotated (name : String) :
      ({ plain with name } : Member).annotation? AnnotationNames.short.invoker = some invoker :=
    findAnnotation?_singleton (by decide +kernel)
  have unnamed : ∀ value, invoker.string? "value" = some value → value = "" := by
    have : invoker.string? "value" = none := by decide +kernel
    simp [this]
  have accepted : Descriptor.IsAccepted ⟨[⟨"I"⟩], .void⟩ := by decide
  have foo : Derives invokerWords plain.name "foo" :=
    ⟨"invoke", by decide, 'F', "oo".toList, by decide, List.all_eq_true.1 (by decide), by decide,
      by decide⟩
  have fooBar : Derives invokerWords dashed.name "foo-bar" :=
    ⟨"invoke", by decide, 'F', "oo-bar".toList, by decide, List.all_eq_true.1 (by decide),
      by decide, by decide⟩
  obtain ⟨extracted, quiet, -⟩ := extract_derivedInvoker (d := d) List.mem_cons_self
    (annotated plain.name) unnamed foo accepted
  obtain ⟨-, -, faulty⟩ := extract_derivedInvoker (d := d)
    (List.mem_cons_of_mem _ List.mem_cons_self) (annotated dashed.name) unnamed fooBar accepted
  have noDash : '-' ∉ plain.name.toList := by decide
  refine ⟨extracted.2 noDash, ?_, ?_⟩
  · rw [(quiet noDash).2]
    decide +kernel
  · rw [(faulty "foo".toList "bar".toList (by decide) (by decide)).2]
    decide +kernel

end MixinIndex
