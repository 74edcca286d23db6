import Mathlib.Tactic.SplitIfs
import MixinIndex.Yaml.Reader

/-!
# From tokens to trees

The structure of a tree without tags and references is found in the tokens, and the tree in the
structure.  Each part of a tree has a statement about the reader of tokens and one about the
descent on the events; the statements of the parts give that of the whole.

## Main definitions

* `Yaml.Mark`: an event of a node that has neither an anchor nor a tag
* `Yaml.Parses`: tokens that are a node
* `Yaml.Repeats`: tokens that are items of a sequence or entries of a mapping
* `Yaml.Builds`: events of a value

## Main statements

* `Yaml.events?_mapping`: the events of a document that is a mapping
* `Yaml.tree?_marks`: the tree of a document from the events of its root

## Design notes

Both readers are given a bound.  The number of steps on tokens adds up, and is compared with the
bound once, for the whole document; the descent needs no more than the number of events.
-/

namespace MixinIndex.Yaml

/-! ### Marks -/

/-- An event of a node without properties. -/
inductive Mark where
  | scalar (text : String) (plain : Bool)
  | sequenceStart
  | sequenceEnd
  | mappingStart
  | mappingEnd

/-- The event that a mark is, whatever anchors are known by. -/
def Mark.event {α : Type} : Mark → Event α
  | scalar text plain => .scalar {} text plain
  | sequenceStart => .sequenceStart {}
  | sequenceEnd => .sequenceEnd
  | mappingStart => .mappingStart {}
  | mappingEnd => .mappingEnd

/-- Marks as events. -/
abbrev eventsOf {α : Type} (marks : List Mark) : List (Event α) := marks.map Mark.event

/-! ### Steps on tokens -/

namespace Expected

variable {handles : Handles} {m n : Nat} {found events : List (Event String)}
  {stack more : List Expected} {expected : Expected} {ts ts' : List Token}

/-- What is found so far, what is expected, and the tokens that are left. -/
abbrev State := List (Event String) × List Expected × List Token

/-- Some steps lead from one state to another. -/
def Reaches (handles : Handles) (n : Nat) (s t : State) : Prop :=
  ∀ bound, run? handles s.1 s.2.1 s.2.2 (bound + n) = run? handles t.1 t.2.1 t.2.2 bound

theorem Reaches.step {found' : List (Event String)} {stack' : List Expected}
    (steps : expected.step? handles ts = some (events, more, ts'))
    (isFound : events.reverse ++ found = found') (isStack : more ++ stack = stack') :
    Reaches handles 1 (found, expected :: stack, ts) (found', stack', ts') := by
  intro bound
  show run? handles found (expected :: stack) ts (bound + 1) = _
  rw [run?, steps, ← isFound, ← isStack]
  rfl

theorem Reaches.refl (s : State) : Reaches handles 0 s s := fun _ => rfl

theorem Reaches.trans {s t u : State} (first : Reaches handles m s t)
    (second : Reaches handles n t u) : Reaches handles (m + n) s u := by
  intro bound
  rw [Nat.add_comm m, ← Nat.add_assoc, first, second]

theorem nodeUnless_of_head {marks : List Token} {node : Expected} {next : List Expected}
    (starts : ∃ t ∈ ts.head?, t ∉ marks) :
    nodeUnless marks node next ts = ([], node :: next, ts) := by
  obtain ⟨t, first, other⟩ := starts
  obtain ⟨ts, rfl⟩ := List.head?_eq_some_iff.1 first
  exact if_neg (by simpa [startsWith] using other)

end Expected

open Expected

/-! ### Nodes -/

/-- Tokens that are a node, which may be a sequence at the column of the keys around it.  Then
another item must not follow. -/
structure Parses (loose : Bool) (tokens : List Token) (marks : List Mark) : Prop where
  starts : ∃ t ∈ tokens.head?, t ∉ [.key, .value, .blockEnd] ∧ (loose = false → t ≠ .blockEntry)
  reaches : ∃ n < 3 * tokens.length, ∀ handles found stack rest,
    (loose = true → rest.head? ≠ some .blockEntry) →
    Reaches handles n (found, .node true loose :: stack, tokens ++ rest)
      ((eventsOf marks).reverse ++ found, stack, rest)

/-- Parts of a collection, each of which starts with the same token and meets an expectation that
stays. -/
structure Repeats (expected : Expected) (first : Token) (tokens : List Token)
    (marks : List Mark) : Prop where
  starts : ∀ t ∈ tokens.head?, t = first
  reaches : ∃ n ≤ 3 * (tokens.length - 1), ∀ handles found stack rest,
    rest.head? ≠ some .blockEntry →
    Reaches handles n (found, expected :: stack, tokens ++ rest)
      ((eventsOf marks).reverse ++ found, expected :: stack, rest)

variable {loose : Bool} {tokens further : List Token} {marks others : List Mark}

theorem Parses.head (parses : Parses loose tokens marks) (rest : List Token) :
    ∃ t ∈ (tokens ++ rest).head?, t ∉ [.key, .value, .blockEnd] ∧
      (loose = false → t ≠ .blockEntry) := by
  obtain ⟨t, first, other⟩ := parses.starts
  obtain ⟨ts, rfl⟩ := List.head?_eq_some_iff.1 first
  exact ⟨t, rfl, other⟩

theorem Repeats.head {expected : Expected} {first : Token}
    (repeats : Repeats expected first tokens marks) (other : first ≠ .blockEntry)
    {rest : List Token} (ends : rest.head? ≠ some .blockEntry) :
    (tokens ++ rest).head? ≠ some .blockEntry := by
  cases tokens with
  | nil => exact ends
  | cons t ts =>
      obtain rfl := repeats.starts t rfl
      simpa using other

theorem Parses.scalar (loose : Bool) (text : String) (plain : Bool) :
    Parses loose [.scalar text plain] [.scalar text plain] := by
  refine ⟨⟨_, rfl, by simp⟩, 1, by simp, fun handles found stack rest _ => ?_⟩
  exact Reaches.step rfl rfl rfl

theorem Parses.emptySequence (loose : Bool) :
    Parses loose [.flowSequenceStart, .flowSequenceEnd] [.sequenceStart, .sequenceEnd] := by
  refine ⟨⟨_, rfl, by simp⟩, 2, by simp, fun handles found stack rest _ => ?_⟩
  have start : Reaches handles 1
      (found, .node true loose :: stack, .flowSequenceStart :: .flowSequenceEnd :: rest)
      (.sequenceStart {} :: found, .flowItem true :: stack, .flowSequenceEnd :: rest) :=
    Reaches.step rfl rfl rfl
  exact start.trans (Reaches.step rfl rfl rfl)

theorem Repeats.nil (expected : Expected) (first : Token) : Repeats expected first [] [] :=
  ⟨by simp, 0, Nat.le_refl _, fun _ _ _ _ _ => Reaches.refl _⟩

/-- One more item before the others. -/
theorem Repeats.item (parses : Parses false tokens marks)
    (repeats : Repeats .looseItem .blockEntry further others) :
    Repeats .looseItem .blockEntry (.blockEntry :: (tokens ++ further)) (marks ++ others) := by
  obtain ⟨m, few, parsed⟩ := parses.reaches
  obtain ⟨n, fewer, repeated⟩ := repeats.reaches
  refine ⟨by simp, 1 + m + n, by simp; omega, fun handles found stack rest ends => ?_⟩
  have entry : Reaches handles 1 (found, .looseItem :: stack,
      .blockEntry :: (tokens ++ (further ++ rest)))
      (found, .node true false :: .looseItem :: stack, tokens ++ (further ++ rest)) := by
    refine Reaches.step (congrArg some (nodeUnless_of_head ?_)) rfl rfl
    obtain ⟨t, first, other, noEntry⟩ := parses.head (further ++ rest)
    exact ⟨t, first, by simpa [noEntry rfl] using other⟩
  have read := (entry.trans (parsed handles found _ (further ++ rest) (by simp))).trans
    (repeated handles _ stack rest ends)
  simpa using read

/-- One more entry before the others. -/
theorem Repeats.entry (word : String) (parses : Parses true tokens marks)
    (repeats : Repeats .blockKey .key further others) :
    Repeats .blockKey .key (.key :: .scalar word true :: .value :: (tokens ++ further))
      (.scalar word true :: (marks ++ others)) := by
  obtain ⟨m, few, parsed⟩ := parses.reaches
  obtain ⟨n, fewer, repeated⟩ := repeats.reaches
  refine ⟨by simp, 3 + m + n, by simp; omega, fun handles found stack rest ends => ?_⟩
  have mark : Reaches handles 1 (found, .blockKey :: stack,
      .key :: .scalar word true :: .value :: (tokens ++ (further ++ rest)))
      (found, .node true true :: .blockValue :: stack,
        .scalar word true :: .value :: (tokens ++ (further ++ rest))) :=
    Reaches.step rfl rfl rfl
  have key : Reaches handles 1 (found, .node true true :: .blockValue :: stack,
      .scalar word true :: .value :: (tokens ++ (further ++ rest)))
      (.scalar {} word true :: found, .blockValue :: stack,
        .value :: (tokens ++ (further ++ rest))) :=
    Reaches.step rfl rfl rfl
  have value : Reaches handles 1 (.scalar {} word true :: found, .blockValue :: stack,
      .value :: (tokens ++ (further ++ rest)))
      (.scalar {} word true :: found, .node true true :: .blockKey :: stack,
        tokens ++ (further ++ rest)) := by
    refine Reaches.step (congrArg some (nodeUnless_of_head ?_)) rfl rfl
    obtain ⟨t, first, other, -⟩ := parses.head (further ++ rest)
    exact ⟨t, first, other⟩
  -- a loose sequence ends at the next key, and the first of the others has one
  have ended := repeats.head (by simp) ends
  have read := (((mark.trans key).trans value).trans (parsed handles _ _ _ fun _ => ended)).trans
    (repeated handles _ stack rest ends)
  simpa [Mark.event] using read

/-- A sequence at the column of the keys around it. -/
theorem Parses.sequence (repeats : Repeats .looseItem .blockEntry tokens marks)
    (nonempty : tokens ≠ []) :
    Parses true tokens (.sequenceStart :: (marks ++ [.sequenceEnd])) := by
  obtain ⟨n, few, repeated⟩ := repeats.reaches
  obtain ⟨t, tokens, rfl⟩ := List.exists_cons_of_ne_nil nonempty
  obtain rfl := repeats.starts t rfl
  refine ⟨⟨_, rfl, by simp⟩, 1 + n + 1, by simp at few ⊢; omega,
    fun handles found stack rest ends => ?_⟩
  have start : Reaches handles 1 (found, .node true true :: stack, .blockEntry :: (tokens ++ rest))
      (.sequenceStart {} :: found, .looseItem :: stack, .blockEntry :: (tokens ++ rest)) :=
    Reaches.step rfl rfl rfl
  have stop (found : List (Event String)) : Reaches handles 1 (found, .looseItem :: stack, rest)
      (.sequenceEnd :: found, stack, rest) := by
    have ended : step? handles .looseItem rest = some ([.sequenceEnd], [], rest) := by
      unfold step?
      split <;> simp_all
    exact Reaches.step ended rfl rfl
  have read := (start.trans (repeated handles _ stack rest (ends rfl))).trans (stop _)
  simpa [Mark.event] using read

/-- A mapping in block style. -/
theorem Parses.mapping (loose : Bool) (repeats : Repeats .blockKey .key tokens marks) :
    Parses loose (.blockMappingStart :: (tokens ++ [.blockEnd]))
      (.mappingStart :: (marks ++ [.mappingEnd])) := by
  obtain ⟨n, few, repeated⟩ := repeats.reaches
  refine ⟨⟨_, rfl, by simp⟩, 1 + n + 1, by simp; omega, fun handles found stack rest _ => ?_⟩
  have start : Reaches handles 1 (found, .node true loose :: stack,
      .blockMappingStart :: (tokens ++ .blockEnd :: rest))
      (.mappingStart {} :: found, .blockKey :: stack, tokens ++ .blockEnd :: rest) :=
    Reaches.step rfl rfl rfl
  have stop (found : List (Event String)) : Reaches handles 1
      (found, .blockKey :: stack, .blockEnd :: rest) (.mappingEnd :: found, stack, rest) :=
    Reaches.step rfl rfl rfl
  have read := (start.trans (repeated handles _ stack (.blockEnd :: rest) (by simp))).trans (stop _)
  simpa [Mark.event] using read

/-- A document that is a mapping in block style. -/
theorem events?_mapping (repeats : Repeats .blockKey .key tokens marks) :
    events? (.blockMappingStart :: (tokens ++ [.blockEnd])) =
      some (eventsOf (.mappingStart :: (marks ++ [.mappingEnd]))) := by
  obtain ⟨n, few, parsed⟩ := (Parses.mapping false repeats).reaches
  have read := parsed defaultHandles [] [] [] (by simp)
  -- one step is left for the empty stack
  obtain ⟨bound, enough⟩ : ∃ bound, 4 * (Token.blockMappingStart :: (tokens ++ [.blockEnd])).length
      + 4 = bound + 1 + n :=
    ⟨4 * (Token.blockMappingStart :: (tokens ++ [.blockEnd])).length + 3 - n, by omega⟩
  have content : content? [] (.blockMappingStart :: (tokens ++ [.blockEnd])) =
      some (eventsOf (.mappingStart :: (marks ++ [.mappingEnd]))) := by
    unfold content?
    rw [enough]
    have run := read (bound + 1)
    rw [List.append_nil] at run
    show Option.bind (run? defaultHandles [] [.node true false] _ _) _ = _
    rw [run]
    simp [run?, skipEnds]
  unfold events?
  simp [directives?, content]

/-! ### Values -/

/-- The events of a value, with the depth of collections that it needs. -/
structure Builds (depth : Nat) (marks : List Mark) (value : Yaml) : Prop where
  starts : ∃ m ∈ marks.head?, m ≠ .sequenceEnd ∧ m ≠ .mappingEnd
  reads : ∀ (d : Document) (references : Nat) (rest : Events) (bound : Nat),
    marks.length ≤ bound →
    d.node? depth references (eventsOf marks ++ rest) bound = some (value, references, rest)

/-- The events of the items of a sequence. -/
def BuildsItems (depth : Nat) (marks : List Mark) (items : List Yaml) : Prop :=
  ∀ (d : Document) (references : Nat) (rest : Events) (bound : Nat), marks.length < bound →
    d.items? depth references (eventsOf marks ++ .sequenceEnd :: rest) bound =
      some (items, references, rest)

/-- The events of the entries of a mapping. -/
def BuildsEntries (depth : Nat) (marks : List Mark) (entries : List (Yaml × Yaml)) : Prop :=
  ∀ (d : Document) (references : Nat) (rest : Events) (bound : Nat), marks.length < bound →
    d.entries? depth references (eventsOf marks ++ .mappingEnd :: rest) bound =
      some (entries, references, rest)

variable {depth : Nat} {value : Yaml} {items : List Yaml} {entries : List (Yaml × Yaml)}

theorem Builds.scalar {text : String} {plain : Bool} (isValue : scalar? text plain = some value)
    (depth : Nat) : Builds depth [.scalar text plain] value := by
  refine ⟨⟨_, rfl, by simp⟩, fun d references rest bound enough => ?_⟩
  obtain ⟨bound, rfl⟩ : ∃ b, bound = b + 1 := ⟨bound - 1, by simp at enough; omega⟩
  have tagged : taggedScalar? none text plain = some value := isValue
  show d.node? depth references (.scalar {} text plain :: rest) (bound + 1) = _
  unfold Document.node?
  simp [tagged]

theorem Builds.length_pos (builds : Builds depth marks value) : 0 < marks.length := by
  obtain ⟨m, first, -⟩ := builds.starts
  obtain ⟨ms, rfl⟩ := List.head?_eq_some_iff.1 first
  exact Nat.succ_pos _

theorem BuildsItems.nil (depth : Nat) : BuildsItems depth [] [] := by
  intro d references rest bound enough
  obtain ⟨bound, rfl⟩ : ∃ b, bound = b + 1 := ⟨bound - 1, by omega⟩
  rfl

theorem BuildsItems.cons (builds : Builds depth marks value)
    (further : BuildsItems depth others items) :
    BuildsItems depth (marks ++ others) (value :: items) := by
  intro d references rest bound enough
  obtain ⟨bound, rfl⟩ : ∃ b, bound = b + 1 := ⟨bound - 1, by omega⟩
  rw [List.length_append] at enough
  have item := builds.reads d references (eventsOf others ++ .sequenceEnd :: rest) bound
    (by omega)
  have items := further d references rest bound (by have := builds.length_pos; omega)
  have goesOn : d.items? depth references (eventsOf marks ++ (eventsOf others ++
      .sequenceEnd :: rest)) (bound + 1) =
      (d.node? depth references (eventsOf marks ++ (eventsOf others ++ .sequenceEnd :: rest))
        bound).bind fun item => (d.items? depth item.2.1 item.2.2 bound).bind fun items =>
          some (item.1 :: items.1, items.2) := by
    obtain ⟨m, first, noEnd, -⟩ := builds.starts
    obtain ⟨ms, rfl⟩ := List.head?_eq_some_iff.1 first
    conv =>
      lhs
      unfold Document.items?
    cases m with
    | sequenceEnd => exact absurd rfl noEnd
    | _ => rfl
  rw [eventsOf, List.map_append, List.append_assoc, goesOn, item, Option.bind_some, items]
  rfl

theorem Builds.sequence (builds : BuildsItems depth marks items) :
    Builds (depth + 1) (.sequenceStart :: (marks ++ [.sequenceEnd])) (.sequence items) := by
  refine ⟨⟨_, rfl, by simp⟩, fun d references rest bound enough => ?_⟩
  obtain ⟨bound, rfl⟩ : ∃ b, bound = b + 1 := ⟨bound - 1, by simp at enough; omega⟩
  have read := builds d references rest bound (by simp at enough; omega)
  have split : (eventsOf (.sequenceStart :: (marks ++ [.sequenceEnd])) ++ rest : Events) =
      .sequenceStart {} :: (eventsOf marks ++ .sequenceEnd :: rest) := by
    simp [Mark.event]
  rw [split]
  unfold Document.node?
  simp [read, Document.underTag, localTag?]

theorem BuildsEntries.nil (depth : Nat) : BuildsEntries depth [] [] := by
  intro d references rest bound enough
  obtain ⟨bound, rfl⟩ : ∃ b, bound = b + 1 := ⟨bound - 1, by omega⟩
  rfl

theorem BuildsEntries.cons {key : Yaml} {keyMarks : List Mark}
    (buildsKey : Builds depth keyMarks key) (builds : Builds depth marks value)
    (further : BuildsEntries depth others entries) :
    BuildsEntries depth (keyMarks ++ (marks ++ others)) ((key, value) :: entries) := by
  intro d references rest bound enough
  obtain ⟨bound, rfl⟩ : ∃ b, bound = b + 1 := ⟨bound - 1, by omega⟩
  rw [List.length_append, List.length_append] at enough
  have nonempty := buildsKey.length_pos
  have readKey := buildsKey.reads d references
    (eventsOf marks ++ (eventsOf others ++ .mappingEnd :: rest)) bound (by omega)
  have readValue := builds.reads d references (eventsOf others ++ .mappingEnd :: rest) bound
    (by omega)
  have read := further d references rest bound (by omega)
  have goesOn : d.entries? depth references (eventsOf keyMarks ++ (eventsOf marks ++
      (eventsOf others ++ .mappingEnd :: rest))) (bound + 1) =
      (d.node? depth references (eventsOf keyMarks ++ (eventsOf marks ++ (eventsOf others ++
        .mappingEnd :: rest))) bound).bind fun key =>
        (d.node? depth key.2.1 key.2.2 bound).bind fun value =>
          (d.entries? depth value.2.1 value.2.2 bound).bind fun entries =>
            some ((key.1, value.1) :: entries.1, entries.2) := by
    obtain ⟨m, first, -, noEnd⟩ := buildsKey.starts
    obtain ⟨ms, rfl⟩ := List.head?_eq_some_iff.1 first
    conv =>
      lhs
      unfold Document.entries?
    cases m with
    | mappingEnd => exact absurd rfl noEnd
    | _ => rfl
  rw [eventsOf, List.map_append, List.map_append, List.append_assoc, List.append_assoc, goesOn,
    readKey, Option.bind_some, readValue, Option.bind_some, read]
  rfl

theorem Builds.mapping (builds : BuildsEntries depth marks entries)
    (distinct : mapping? entries = some entries) :
    Builds (depth + 1) (.mappingStart :: (marks ++ [.mappingEnd])) (.mapping entries) := by
  refine ⟨⟨_, rfl, by simp⟩, fun d references rest bound enough => ?_⟩
  obtain ⟨bound, rfl⟩ : ∃ b, bound = b + 1 := ⟨bound - 1, by simp at enough; omega⟩
  have read := builds d references rest bound (by simp at enough; omega)
  have split : (eventsOf (.mappingStart :: (marks ++ [.mappingEnd])) ++ rest : Events) =
      .mappingStart {} :: (eventsOf marks ++ .mappingEnd :: rest) := by
    simp [Mark.event]
  rw [split]
  unfold Document.node?
  simp [read, distinct, Document.underTag, localTag?]

/-! ### Documents -/

theorem number?_event (numbers : AnchorNumbers) (mark : Mark) :
    mark.event.number? numbers = some (mark.event, numbers) := by
  cases mark <;> rfl

/-- Marks need no numbers. -/
theorem numberAll?_marks (numbers : AnchorNumbers) (numbered : Events) (marks : List Mark) :
    numberAll? numbers numbered (eventsOf marks) = some ((eventsOf marks).reverse ++ numbered) := by
  induction marks generalizing numbered with
  | nil => rfl
  | cons mark marks ih =>
      rw [eventsOf, List.map_cons, numberAll?, number?_event]
      exact (ih _).trans (by simp)

/-- The tree of a document from the events of its root. -/
theorem tree?_marks (builds : Builds maxDepth marks value) :
    (Document.ofEvents? (eventsOf marks)).bind Document.tree? = some value := by
  obtain ⟨places, document⟩ : ∃ places, Document.ofEvents? (eventsOf marks) =
      some ⟨eventsOf marks, places⟩ := by
    refine ⟨placesFrom [] (eventsOf marks), ?_⟩
    simp [Document.ofEvents?, numberAll?_marks]
  obtain ⟨m, first, -⟩ := builds.starts
  obtain ⟨ms, rfl⟩ := List.head?_eq_some_iff.1 first
  have enough : (m :: ms).length ≤ (maxDepth + 2) * ((eventsOf (m :: ms) : Events).length + 2) := by
    rw [List.length_map]
    show _ ≤ 130 * _
    omega
  have read := builds.reads ⟨eventsOf (m :: ms), places⟩ 0 [] _ enough
  rw [List.append_nil] at read
  rw [document, Option.bind_some]
  unfold Document.tree?
  rw [if_neg (by simp), read]
  rfl

end MixinIndex.Yaml
