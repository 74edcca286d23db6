import MixinIndex.Proofs.Signature.Erasure

/-!
# Chains of bounds

What a signature erases to, described by its grammar and without a limit: dimensions stay, a class
loses its type arguments, and a variable becomes what its first bound erases to.  Erasure yields
just that if no more than eight bounds have to be followed, and an array of the root class or the
root class itself otherwise.

## Main definitions

* `Signature.LosesArguments`: a text, and what stands outside of its `<…>` sections
* `Signature.IsFirstBound`: the bound that a variable stands for
* `Signature.ErasesTo`: what a signature erases to, and how many bounds are followed for it
* `Signature.IsBare`: no type arguments, and no type variable as element

## Main statements

* `Signature.ErasesTo.eraseWithin_eq`: a chain that ends within the limit is followed to its end
* `Signature.settles`: every other chain ends in the root class
* `Signature.erase_follows_bounds`: what erasure yields

## Design notes

A chain of bounds that runs into a cycle has no end, so `ErasesTo` relates its signature to nothing.
This makes cycles and long chains one case.
-/

namespace MixinIndex.Signature

/-! ### Type arguments -/

/-- A text in which every `<` has a `>` of its own behind it. -/
inductive IsBalanced : List Char → Prop
  | nil : IsBalanced []
  | plain {c : Char} {cs : List Char} (notMark : c ∉ ['<', '>']) (rest : IsBalanced cs) :
      IsBalanced (c :: cs)
  | nested {inner cs : List Char} (inside : IsBalanced inner) (rest : IsBalanced cs) :
      IsBalanced ('<' :: (inner ++ '>' :: cs))

/-- A text, and what is left of it when its type arguments are removed. -/
inductive LosesArguments : List Char → List Char → Prop
  | nil : LosesArguments [] []
  | kept {c : Char} {cs name : List Char} (notMark : c ∉ ['<', '>'])
      (rest : LosesArguments cs name) : LosesArguments (c :: cs) (c :: name)
  | removed {inner cs name : List Char} (arguments : IsBalanced inner)
      (rest : LosesArguments cs name) : LosesArguments ('<' :: (inner ++ '>' :: cs)) name

/-- Inside of a list of type arguments nothing is kept. -/
theorem IsBalanced.stripArguments_append {inner : List Char} (h : IsBalanced inner) (depth : Nat)
    (rest : List Char) :
    stripArguments (depth + 1) (inner ++ rest) = stripArguments (depth + 1) rest := by
  induction h generalizing depth rest with
  | nil => rfl
  | @plain c cs notMark _ ih =>
      rw [List.mem_cons, List.mem_singleton, not_or] at notMark
      rw [List.cons_append, stripArguments, if_neg notMark.1, if_neg notMark.2,
        if_neg (Nat.succ_ne_zero depth)]
      exact ih depth rest
  | @nested inner cs _ _ insideIh restIh =>
      rw [List.cons_append, List.append_assoc, List.cons_append, stripArguments, if_pos rfl,
        insideIh, stripArguments, if_neg (by decide), if_pos rfl]
      exact restIh depth rest

theorem LosesArguments.stripArguments_eq {cs name : List Char} (h : LosesArguments cs name) :
    stripArguments 0 cs = name := by
  induction h with
  | nil => rfl
  | @kept c cs name notMark _ ih =>
      rw [List.mem_cons, List.mem_singleton, not_or] at notMark
      rw [stripArguments, if_neg notMark.1, if_neg notMark.2, if_pos rfl, ih]
  | @removed inner cs name arguments _ ih =>
      rw [stripArguments, if_pos rfl, arguments.stripArguments_append, stripArguments,
        if_neg (by decide), if_pos rfl]
      exact ih

theorem LosesArguments.notMem {cs name : List Char} (h : LosesArguments cs name) {c : Char}
    (isMark : c ∈ ['<', '>']) : c ∉ name := by
  induction h with
  | nil => exact List.not_mem_nil
  | kept notMark _ ih =>
      refine List.not_mem_cons_of_ne_of_not_mem ?_ ih
      rintro rfl
      exact notMark isMark
  | removed _ _ ih => exact ih

/-- Where a list of type arguments is open, it is closed later on. -/
theorem IsBody.exists_closing {depth : Nat} {body : List Char} (h : IsBody (depth + 1) body) :
    ∃ inner rest, body = inner ++ '>' :: rest ∧ IsBalanced inner ∧ IsBody depth rest := by
  -- A list that is opened on the way is closed first, and what follows it is shorter again.
  induction length : body.length using Nat.strong_induction_on generalizing depth body with
  | _ n ih =>
    subst length
    cases body with
    | nil => exact absurd (isBody_nil.1 h) (Nat.succ_ne_zero depth)
    | cons c cs =>
        obtain ⟨next, step, isBody⟩ := isBody_cons.1 h
        by_cases opens : c = '<'
        · subst opens
          obtain rfl : depth + 1 + 1 = next := Option.some.inj step
          obtain ⟨inner, after, rfl, inside, afterBody⟩ := ih _ (Nat.lt_succ_self _) isBody rfl
          have shorter : after.length < ('<' :: (inner ++ '>' :: after)).length := by
            simp only [List.length_cons, List.length_append]
            omega
          obtain ⟨behind, rest, rfl, balanced, restBody⟩ := ih _ shorter afterBody rfl
          exact ⟨'<' :: (inner ++ '>' :: behind), rest, by simp, .nested inside balanced, restBody⟩
        by_cases closes : c = '>'
        · subst closes
          obtain rfl : depth = next := Option.some.inj step
          exact ⟨[], cs, rfl, .nil, isBody⟩
        · have same : next = depth + 1 := by
            simp only [Signature.depthAfter?, if_neg opens, if_neg closes] at step
            split_ifs at step
            exact (Option.some.inj step).symm
          subst same
          obtain ⟨inner, rest, rfl, inside, restBody⟩ := ih _ (Nat.lt_succ_self _) isBody rfl
          exact ⟨c :: inner, rest, rfl, .plain (by simp [opens, closes]) inside, restBody⟩

/-- The type arguments of a class can be removed. -/
theorem IsBody.losesArguments {body : List Char} (h : IsBody 0 body) :
    LosesArguments body (stripArguments 0 body) := by
  suffices ∃ name, LosesArguments body name by
    obtain ⟨name, loses⟩ := this
    rwa [loses.stripArguments_eq]
  induction length : body.length using Nat.strong_induction_on generalizing body with
  | _ n ih =>
    subst length
    cases body with
    | nil => exact ⟨[], .nil⟩
    | cons c cs =>
        obtain ⟨next, step, isBody⟩ := isBody_cons.1 h
        by_cases opens : c = '<'
        · subst opens
          obtain rfl : 0 + 1 = next := Option.some.inj step
          obtain ⟨inner, rest, rfl, arguments, restBody⟩ := isBody.exists_closing
          have shorter : rest.length < ('<' :: (inner ++ '>' :: rest)).length := by
            simp only [List.length_cons, List.length_append]
            omega
          obtain ⟨name, loses⟩ := ih _ shorter restBody rfl
          exact ⟨name, .removed arguments loses⟩
        · obtain ⟨rfl, closes⟩ : next = 0 ∧ c ≠ '>' := by
            simp only [Signature.depthAfter?, if_neg opens] at step
            split_ifs at step with closes
            exact ⟨(Option.some.inj step).symm, closes⟩
          obtain ⟨name, loses⟩ := ih _ (Nat.lt_succ_self _) isBody rfl
          exact ⟨c :: name, .kept (by simp [opens, closes]) loses⟩

/-! ### First bounds -/

/-- The first bound of the first parameter of a name, in the order of the scopes. -/
def IsFirstBound (scopes : List (List TypeParameter)) (name : List Char) (bound : Signature) :
    Prop :=
  ∃ before parameter after, scopes.flatten = before ++ parameter :: after ∧
    (∀ other ∈ before, other.name.toList ≠ name) ∧ parameter.name.toList = name ∧
      parameter.bounds.head? = some bound

variable {scopes : List (List TypeParameter)}

theorem firstBound?_eq_some_iff {name : List Char} {bound : Signature} :
    firstBound? scopes name = some bound ↔ IsFirstBound scopes name bound := by
  constructor
  · intro found
    unfold firstBound? at found
    split at found
    · rename_i parameter first
      obtain ⟨isNamed, before, after, split, others⟩ := List.find?_eq_some_iff_append.1 first
      refine ⟨before, parameter, after, split, fun other mem => ?_, beq_iff_eq.1 isNamed, found⟩
      simpa using others other mem
    · cases found
  · rintro ⟨before, parameter, after, split, others, rfl, isFirst⟩
    have first : scopes.flatten.find? (·.name.toList == parameter.name.toList) = some parameter :=
      List.find?_eq_some_iff_append.2
        ⟨beq_self_eq_true _, before, after, split, fun other mem => by simpa using others other mem⟩
    rw [firstBound?, first]
    exact isFirst

theorem firstBound?_eq_none_iff {name : List Char} :
    firstBound? scopes name = none ↔ ∀ bound, ¬ IsFirstBound scopes name bound := by
  simp only [← firstBound?_eq_some_iff, Option.eq_none_iff_forall_ne_some, ne_eq]

/-- The bound of a variable is one of those in scope. -/
theorem IsFirstBound.exists_mem {name : List Char} {bound : Signature}
    (h : IsFirstBound scopes name bound) :
    ∃ scope ∈ scopes, ∃ parameter ∈ scope, bound ∈ parameter.bounds :=
  exists_of_firstBound? (firstBound?_eq_some_iff.2 h)

/-! ### What signatures erase to -/

/-- What a signature erases to when bounds are followed to the end, and how many of them are. -/
inductive ErasesTo (scopes : List (List TypeParameter)) : Nat → List Char → List Char → Prop
  | void : ErasesTo scopes 0 ['V'] ['V']
  | base {c : Char} (isLetter : c ∈ baseLetters) : ErasesTo scopes 0 [c] [c]
  | reference {lead : Char} {body name : List Char} (isLead : lead = 'L' ∨ lead = 'Q')
      (nonempty : body ≠ []) (isBody : IsBody 0 body) (loses : LosesArguments body name) :
      ErasesTo scopes 0 (lead :: (body ++ [';'])) (lead :: (name ++ [';']))
  | unbounded {name : List Char} (nonempty : name ≠ [])
      (noBound : ∀ bound, ¬ IsFirstBound scopes name bound) :
      ErasesTo scopes 0 ('T' :: (name ++ [';'])) object.chars
  | bounded {steps : Nat} {name erased : List Char} {bound : Signature} (nonempty : name ≠ [])
      (isBound : IsFirstBound scopes name bound)
      (erases : ErasesTo scopes steps bound.chars erased) :
      ErasesTo scopes (steps + 1) ('T' :: (name ++ [';'])) erased
  | array {steps : Nat} {cs erased : List Char} (erases : ErasesTo scopes steps cs erased) :
      ErasesTo scopes steps ('[' :: cs) ('[' :: erased)

theorem ErasesTo.replicate_append {steps : Nat} {cs erased : List Char}
    (h : ErasesTo scopes steps cs erased) (dims : Nat) :
    ErasesTo scopes steps (List.replicate dims '[' ++ cs) (List.replicate dims '[' ++ erased) := by
  induction dims with
  | zero => exact h
  | succ dims ih => exact .array ih

/-- One more dimension is kept. -/
theorem eraseWithin_cons_dimension (limit : Nat) (cs : List Char) :
    eraseWithin scopes limit ('[' :: cs) = '[' :: eraseWithin scopes limit cs := by
  rw [eraseWithin_eq_append, eraseWithin_eq_append scopes limit cs]
  rfl

/-- A chain of bounds that ends within the limit is followed to its end. -/
theorem ErasesTo.eraseWithin_eq {steps limit : Nat} {cs erased : List Char}
    (h : ErasesTo scopes steps cs erased) (ends : steps ≤ limit) :
    eraseWithin scopes limit cs = erased := by
  induction h generalizing limit with
  | void => cases limit <;> rfl
  | base isLetter => exact eraseWithin_base scopes limit isLetter
  | reference isLead nonempty isBody loses =>
      rw [eraseWithin_reference scopes limit isLead nonempty isBody, loses.stripArguments_eq]
  | unbounded nonempty noBound =>
      rw [eraseWithin_variable scopes limit nonempty, firstBound?_eq_none_iff.2 noBound]
      cases limit <;> rfl
  | @bounded steps name erased bound nonempty isBound _ ih =>
      obtain ⟨rest, rfl⟩ : ∃ rest, limit = rest + 1 := Nat.exists_eq_add_one.2 (by omega)
      rw [eraseWithin_variable scopes _ nonempty, firstBound?_eq_some_iff.2 isBound]
      exact ih (by omega)
  | array _ ih => rw [eraseWithin_cons_dimension, ih ends]

/-- Within a limit, erasure follows the bounds of a signature to their end, or it gives up and
yields the root class or an array of it. -/
def Settles (scopes : List (List TypeParameter)) (limit : Nat) (cs : List Char) : Prop :=
  (∃ steps ≤ limit, ErasesTo scopes steps cs (eraseWithin scopes limit cs)) ∨
    ∃ dims, eraseWithin scopes limit cs = List.replicate dims '[' ++ object.chars

theorem Settles.replicate_append {limit : Nat} {element : List Char}
    (isElement : IsElement element) (h : Settles scopes limit element) (dims : Nat) :
    Settles scopes limit (List.replicate dims '[' ++ element) := by
  rw [Settles, eraseWithin_array scopes limit dims isElement]
  rcases h with ⟨steps, within, erases⟩ | ⟨more, root⟩
  · exact .inl ⟨steps, within, erases.replicate_append dims⟩
  · refine .inr ⟨dims + more, ?_⟩
    rw [root, ← List.append_assoc, List.replicate_append_replicate]

/-- No bound is needed for what is no variable. -/
theorem settles_of_variables {limit : Nat}
    (ofVariables : ∀ name, name ≠ [] → Settles scopes limit ('T' :: (name ++ [';'])))
    {cs : List Char} (h : IsSignature cs) : Settles scopes limit cs := by
  cases h with
  | void =>
      have unchanged : eraseWithin scopes limit ['V'] = ['V'] :=
        ErasesTo.void.eraseWithin_eq limit.zero_le
      refine .inl ⟨0, limit.zero_le, ?_⟩
      rw [unchanged]
      exact .void
  | @array dims element isElement =>
      refine Settles.replicate_append isElement ?_ dims
      cases isElement with
      | base isLetter =>
          refine .inl ⟨0, limit.zero_le, ?_⟩
          rw [eraseWithin_base scopes limit isLetter]
          exact .base isLetter
      | reference isLead nonempty isBody =>
          refine .inl ⟨0, limit.zero_le, ?_⟩
          rw [eraseWithin_reference scopes limit isLead nonempty isBody]
          exact .reference isLead nonempty isBody isBody.losesArguments
      | typeVariable nonempty => exact ofVariables _ nonempty

/-- The erasure of a signature settles if the bounds in scope are signatures. -/
theorem settles (bounds : ∀ scope ∈ scopes, ∀ parameter ∈ scope, ∀ bound ∈ parameter.bounds,
      IsSignature bound.chars) (limit : Nat) {cs : List Char} (h : IsSignature cs) :
    Settles scopes limit cs := by
  -- One bound is followed in each step of the induction, and it is a signature again.
  induction limit generalizing cs with
  | zero =>
      refine settles_of_variables (fun name nonempty => ?_) h
      refine .inr ⟨0, ?_⟩
      rw [eraseWithin_variable scopes 0 nonempty]
      rfl
  | succ limit ih =>
      refine settles_of_variables (fun name nonempty => ?_) h
      rw [Settles, eraseWithin_variable scopes (limit + 1) nonempty]
      cases found : firstBound? scopes name with
      | none => exact .inl ⟨0, Nat.zero_le _, .unbounded nonempty (firstBound?_eq_none_iff.1 found)⟩
      | some bound =>
          have isBound := firstBound?_eq_some_iff.1 found
          obtain ⟨scope, inScope, parameter, inParameter, isListed⟩ := isBound.exists_mem
          rcases ih (bounds scope inScope parameter inParameter bound isListed) with
            ⟨steps, within, erases⟩ | root
          · exact .inl ⟨steps + 1, Nat.succ_le_succ within, .bounded nonempty isBound erases⟩
          · exact .inr root

/-! ### Bare signatures -/

/-- A text without type arguments whose element is no type variable. -/
structure IsBare (cs : List Char) : Prop where
  noOpening : '<' ∉ cs
  noClosing : '>' ∉ cs
  noVariable : kindOf (element cs) ≠ .typeVariable

theorem isBare_object : IsBare object.chars := ⟨by decide, by decide, by decide⟩

theorem IsBare.cons_dimension {cs : List Char} (h : IsBare cs) : IsBare ('[' :: cs) :=
  ⟨List.not_mem_cons_of_ne_of_not_mem (by decide) h.noOpening,
    List.not_mem_cons_of_ne_of_not_mem (by decide) h.noClosing, h.noVariable⟩

theorem IsBare.replicate_append {cs : List Char} (h : IsBare cs) (dims : Nat) :
    IsBare (List.replicate dims '[' ++ cs) := by
  induction dims with
  | zero => exact h
  | succ dims ih => exact ih.cons_dimension

/-- Following bounds to their end leaves no variable and no type arguments. -/
theorem ErasesTo.isBare {steps : Nat} {cs erased : List Char}
    (h : ErasesTo scopes steps cs erased) : IsBare erased := by
  induction h with
  | void => exact ⟨by decide, by decide, by decide⟩
  | base isLetter =>
      simp only [baseLetters, List.mem_cons, List.not_mem_nil, or_false] at isLetter
      rcases isLetter with rfl | rfl | rfl | rfl | rfl | rfl | rfl | rfl <;>
        exact ⟨by decide, by decide, by decide⟩
  | @reference lead body name isLead _ _ loses =>
      have noOpening : '<' ∉ name ++ [';'] := by simpa using loses.notMem (by decide)
      have noClosing : '>' ∉ name ++ [';'] := by simpa using loses.notMem (by decide)
      rcases isLead with rfl | rfl
      · exact ⟨List.not_mem_cons_of_ne_of_not_mem (by decide) noOpening,
          List.not_mem_cons_of_ne_of_not_mem (by decide) noClosing, Kind.noConfusion⟩
      · exact ⟨List.not_mem_cons_of_ne_of_not_mem (by decide) noOpening,
          List.not_mem_cons_of_ne_of_not_mem (by decide) noClosing, Kind.noConfusion⟩
  | unbounded => exact isBare_object
  | bounded _ _ _ ih => exact ih
  | array _ ih => exact ih.cons_dimension

theorem Settles.isBare {limit : Nat} {cs : List Char} (h : Settles scopes limit cs) :
    IsBare (eraseWithin scopes limit cs) := by
  rcases h with ⟨steps, -, erases⟩ | ⟨dims, root⟩
  · exact erases.isBare
  · rw [root]
    exact isBare_object.replicate_append dims

/-- Erasure leaves bare texts as they are, in every scope. -/
theorem IsBare.eraseWithin_eq {cs : List Char} (h : IsBare cs) (scopes : List (List TypeParameter))
    (limit : Nat) : eraseWithin scopes limit cs = cs := by
  have noVariable : variableNameOf (element cs) = none := by
    rw [Option.eq_none_iff_forall_ne_some]
    intro name isVariable
    refine h.noVariable ?_
    rw [(variableNameOf_eq_some.1 isVariable).2]
    rfl
  have noArguments : '<' ∉ element cs := by
    intro mem
    refine h.noOpening ?_
    rw [← dimensions_append_element cs]
    exact List.mem_append_right _ mem
  cases limit <;> rw [eraseWithin, noVariable] <;>
    exact (congrArg _ (if_neg noArguments)).trans (dimensions_append_element cs)

/-! ### The whole law -/

/-- Erasure follows bounds: if the chain that starts at a signature comes to an end in eight bounds,
erasure yields what it erases to, and otherwise, cycles included, the root class or an array of it.
In any case no type arguments and no type variable are left, and erasing again, in any scopes,
changes nothing. -/
theorem erase_follows_bounds
    (bounds : ∀ scope ∈ scopes, ∀ parameter ∈ scope, ∀ bound ∈ parameter.bounds,
      parseText bound.text = .ok bound)
    {s : Signature} (accepted : parseText s.text = .ok s) :
    (∀ steps erased, ErasesTo scopes steps s.chars erased → steps ≤ 8 →
        s.erase scopes = ofChars erased) ∧
      ((∀ steps erased, ErasesTo scopes steps s.chars erased → 8 < steps) →
        ∃ dims, s.erase scopes = ofChars (List.replicate dims '[' ++ object.chars)) ∧
      '<' ∉ (s.erase scopes).chars ∧ '>' ∉ (s.erase scopes).chars ∧
      kindOf (element (s.erase scopes).chars) ≠ .typeVariable ∧
      ∀ others, (s.erase scopes).erase others = s.erase scopes := by
  have settled : Settles scopes 8 s.chars := by
    refine settles (fun scope inScope parameter inParameter bound isListed => ?_) 8
      (parseText_text_eq_ok_iff.1 accepted)
    exact parseText_text_eq_ok_iff.1 (bounds scope inScope parameter inParameter bound isListed)
  have bare : IsBare (s.erase scopes).chars := by
    rw [erase, chars_ofChars]
    exact settled.isBare
  refine ⟨?_, ?_, bare.noOpening, bare.noClosing, bare.noVariable, fun others => ?_⟩
  · intro steps erased erases ends
    exact congrArg ofChars (erases.eraseWithin_eq ends)
  · intro endless
    rcases settled with ⟨steps, within, erases⟩ | ⟨dims, root⟩
    · exact absurd (endless steps _ erases) (Nat.not_lt.2 within)
    · exact ⟨dims, congrArg ofChars root⟩
  · rw [erase, bare.eraseWithin_eq, ofChars_chars]

/-- From `B` on there are eight bounds, through both scopes and past a parameter that is shadowed,
and from `A` on there are nine. -/
theorem erase_follows_bounds_nine :
    let scopes : List (List TypeParameter) :=
      [[⟨"A", [⟨"TB;"⟩]⟩, ⟨"B", [⟨"[TC;"⟩, ⟨"I"⟩]⟩, ⟨"C", [⟨"TD;"⟩]⟩, ⟨"D", [⟨"TE;"⟩]⟩],
        [⟨"D", [⟨"TA;"⟩]⟩, ⟨"E", [⟨"TF;"⟩]⟩, ⟨"F", [⟨"TG;"⟩]⟩, ⟨"G", [⟨"TH;"⟩]⟩, ⟨"H", [⟨"TI;"⟩]⟩,
          ⟨"I", [⟨"Lx/Map<TA;Lx/Box<TB;>;>;"⟩]⟩]]
    ErasesTo scopes 8 "TB;".toList "[Lx/Map;".toList ∧
      erase ⟨"TB;"⟩ scopes = ofChars "[Lx/Map;".toList ∧
      (∀ steps erased, ErasesTo scopes steps "TA;".toList erased → 8 < steps) ∧
      ∃ dims, erase ⟨"TA;"⟩ scopes = ofChars (List.replicate dims '[' ++ object.chars) := by
  intro scopes
  have bounds : ∀ scope ∈ scopes, ∀ parameter ∈ scope, ∀ bound ∈ parameter.bounds,
      parseText bound.text = .ok bound := by decide
  have link {steps : Nat} {c : Char} {bound : Signature} {erased : List Char}
      (found : firstBound? scopes [c] = some bound)
      (erases : ErasesTo scopes steps bound.chars erased) :
      ErasesTo scopes (steps + 1) ['T', c, ';'] erased :=
    .bounded (List.cons_ne_nil c []) (firstBound?_eq_some_iff.1 found) erases
  have last : ErasesTo scopes 0 "Lx/Map<TA;Lx/Box<TB;>;>;".toList
      "Lx/Map;".toList := by
    have read : scanBody 0 true 1 "x/Map<TA;Lx/Box<TB;>;>;".toList =
        .ok ("x/Map<TA;Lx/Box<TB;>;>;".toList, []) := by decide
    obtain ⟨body, isBody, nonempty, written, -⟩ := scanBody_eq_ok_iff.1 read
    obtain rfl : "x/Map<TA;Lx/Box<TB;>;>".toList = body := List.append_cancel_right written
    exact .reference (.inl rfl) (nonempty rfl) isBody isBody.losesArguments
  have fromE : ErasesTo scopes 5 "TE;".toList "Lx/Map;".toList :=
    link rfl (link rfl (link rfl (link rfl (link rfl last))))
  have fromB : ErasesTo scopes 8 "TB;".toList "[Lx/Map;".toList :=
    link rfl (.array (link rfl (link rfl fromE)))
  have fromA (steps : Nat) (erased : List Char)
      (erases : ErasesTo scopes steps "TA;".toList erased) : 8 < steps := by
    -- a chain that ends within eight bounds does not depend on the limit
    by_contra short
    have eight := erases.eraseWithin_eq (Nat.not_lt.1 short)
    have nine := erases.eraseWithin_eq (Nat.le_succ_of_le (Nat.not_lt.1 short))
    exact absurd (eight.trans nine.symm) (by decide)
  have readsA : parseText "TA;" = .ok ⟨"TA;"⟩ := by decide
  have readsB : parseText "TB;" = .ok ⟨"TB;"⟩ := by decide
  exact ⟨fromB, (erase_follows_bounds bounds readsB).1 8 _ fromB le_rfl, fromA,
    (erase_follows_bounds bounds readsA).2.1 fromA⟩

end MixinIndex.Signature
