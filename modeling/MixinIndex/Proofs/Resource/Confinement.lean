import Mathlib.Data.List.Basic
import MixinIndex.Resource.Source

/-!
# Confinement of resources

A resource path is checked by its components, but looked up as it is written, behind its root.  The
two views are related by the lexical normal form of a path, which comes from its segments alone.

## Main definitions

* `Path.Component`, `Path.components`: the components of a path, as the check sees them
* `Path.Normal`, `Path.normalize`: the lexical normal form
* `Path.Normal.IsWithin`: a normal form is that of a directory, or of something below it
* `Source.readWith`: the text of a resource, with every look at the disk as an effect

## Main statements

* `Path.isSettled_normalize`: a normal form climbs at its start only, and an absolute one nowhere
* `Path.normalize_join`: behind a root, a path that does not climb adds its names to the root's
* `Path.locate?_confined`: what is looked up is within the root, and nothing else is looked up

## Design notes

The names of a normal form are collected with the innermost one first, so that climbing takes away
the first of them.
-/

namespace MixinIndex

open Text

namespace Path

open FileTree (namingSegments)

/-! ### Components -/

/-- A component of a path. -/
inductive Component where
  | rootDirectory
  | currentDirectory
  | parentDirectory
  | normal (name : List Char)
  deriving DecidableEq

/-- Whether a component stays where it is or goes down. -/
def Component.staysInside : Component → Bool
  | currentDirectory => true
  | normal _ => true
  | _ => false

/-- The component that a segment with a name is. -/
def Component.ofSegment (segment : List Char) : Component :=
  if segment = parent then parentDirectory else normal segment

/-- The components of a path.  Empty segments are left out, and so are single dots but for one at
the start. -/
def components (path : String) : List Component :=
  (if isAbsolute path then [.rootDirectory]
    else if (segments path).head? = some current then [.currentDirectory]
    else []) ++ (namingSegments path).map .ofSegment

theorem staysInside_ofSegment (segment : List Char) :
    (Component.ofSegment segment).staysInside = (segment != parent) := by
  unfold Component.ofSegment
  split_ifs with climbs
  · simp [climbs, Component.staysInside]
  · simp [climbs, Component.staysInside]

theorem mem_namingSegments {path : String} {segment : List Char} :
    segment ∈ namingSegments path ↔ segment ∈ segments path ∧ segment ≠ [] ∧ segment ≠ current := by
  simp [namingSegments]

theorem parent_mem_namingSegments {path : String} :
    parent ∈ namingSegments path ↔ parent ∈ segments path := by
  rw [mem_namingSegments]
  exact and_iff_left ⟨by decide, by decide⟩

/-- A path is refused for one of its components. -/
theorem escapes_iff {path : String} :
    escapes path = true ↔ ∃ component ∈ components path, component.staysInside = false := by
  have climbs : (∃ component ∈ (namingSegments path).map Component.ofSegment,
      component.staysInside = false) ↔ parent ∈ segments path := by
    rw [← parent_mem_namingSegments]
    simp [staysInside_ofSegment]
  rw [escapes, components, Bool.or_eq_true, List.contains_iff_mem, ← climbs]
  cases isAbsolute path with
  | true => simp [Component.staysInside]
  | false =>
      by_cases starts : (segments path).head? = some current
      · simp [starts, Component.staysInside]
      · simp [starts]

/-! ### Normal forms -/

/-- A path in normal form: from the top of the file system or not, and its names in order. -/
structure Normal where
  isAbsolute : Bool
  names : List (List Char)
  deriving DecidableEq

/-- The place above a place whose innermost name comes first.  There is nothing above the top of the
file system; above the start of any other path the climbing is kept. -/
def climb (absolute : Bool) : List (List Char) → List (List Char)
  | [] => if absolute then [] else [parent]
  | name :: above => if name = parent then parent :: name :: above else above

/-- The place that one more segment leads to. -/
def descend (absolute : Bool) (place : List (List Char)) (segment : List Char) :
    List (List Char) :=
  if segment = [] ∨ segment = current then place
  else if segment = parent then climb absolute place
  else segment :: place

/-- The normal form of a path. -/
def normalize (path : String) : Normal :=
  ⟨isAbsolute path, ((segments path).foldl (descend (isAbsolute path)) []).reverse⟩

/-- The place is the directory or below it: the same names come first, and then no climbing. -/
def Normal.IsWithin (place directory : Normal) : Prop :=
  place.isAbsolute = directory.isAbsolute ∧
    ∃ names, parent ∉ names ∧ place.names = directory.names ++ names

/-! ### Shape of normal forms -/

/-- A place, its innermost name first: names below, and above them climbing that no absolute path
has. -/
structure IsSettled (absolute : Bool) (place : List (List Char)) : Prop where
  named : ∀ name ∈ place, name ≠ [] ∧ name ≠ current
  climbs : ∃ below count, place = below ++ List.replicate count parent ∧ parent ∉ below ∧
    (absolute = true → count = 0)

variable {absolute : Bool} {place : List (List Char)}

theorem IsSettled.climb (settled : IsSettled absolute place) :
    IsSettled absolute (climb absolute place) := by
  obtain ⟨named, below, count, rfl, noClimb, atTop⟩ := settled
  have further (count : Nat) (notAtTop : absolute = false) :
      IsSettled absolute (parent :: List.replicate count parent) := by
    refine ⟨fun name mem => ?_, [], count + 1, rfl, List.not_mem_nil, by simp [notAtTop]⟩
    rw [List.eq_of_mem_replicate (n := count + 1) mem]
    decide
  cases below with
  | nil =>
      cases count with
      | zero =>
          cases absolute with
          | true => exact ⟨by simp [Path.climb], [], 0, rfl, List.not_mem_nil, fun _ => rfl⟩
          | false => exact further 0 rfl
      | succ count =>
          have notAtTop : absolute = false := by
            cases absolute with
            | true => exact absurd (atTop rfl) (Nat.succ_ne_zero count)
            | false => rfl
          exact further (count + 1) notAtTop
  | cons name below =>
      rw [List.mem_cons, not_or] at noClimb
      have back : Path.climb absolute (name :: (below ++ List.replicate count parent)) =
          below ++ List.replicate count parent := if_neg (Ne.symm noClimb.1)
      rw [List.cons_append, back]
      exact ⟨fun n mem => named n (List.mem_cons_of_mem _ mem), below, count, rfl, noClimb.2, atTop⟩

theorem IsSettled.descend (settled : IsSettled absolute place) (segment : List Char) :
    IsSettled absolute (descend absolute place segment) := by
  unfold Path.descend
  split_ifs with stays climbs
  · exact settled
  · exact settled.climb
  · obtain ⟨named, below, count, rfl, noClimb, atTop⟩ := settled
    rw [not_or] at stays
    refine ⟨List.forall_mem_cons.2 ⟨stays, named⟩, segment :: below, count, rfl, ?_, atTop⟩
    rw [List.mem_cons, not_or]
    exact ⟨Ne.symm climbs, noClimb⟩

theorem IsSettled.foldl (settled : IsSettled absolute place) (segments : List (List Char)) :
    IsSettled absolute (segments.foldl (Path.descend absolute) place) := by
  induction segments generalizing place with
  | nil => exact settled
  | cons segment segments ih => exact ih (settled.descend segment)

/-- A normal form climbs at its start only, and an absolute one nowhere; all else are names. -/
theorem isSettled_normalize (path : String) :
    (∀ name ∈ (normalize path).names, name ≠ [] ∧ name ≠ current) ∧
      ∃ count below, (normalize path).names = List.replicate count parent ++ below ∧
        parent ∉ below ∧ ((normalize path).isAbsolute = true → count = 0) := by
  have start : IsSettled (Path.isAbsolute path) [] :=
    ⟨by simp, [], 0, rfl, List.not_mem_nil, fun _ => rfl⟩
  obtain ⟨named, below, count, split, noClimb, atTop⟩ := start.foldl (segments path)
  refine ⟨fun name mem => named name (List.mem_reverse.1 mem), count, below.reverse, ?_, ?_, atTop⟩
  · rw [normalize, split, List.reverse_append, List.reverse_replicate]
  · rwa [List.mem_reverse]

/-! ### Below a root -/

/-- Without climbing, only the names among some segments matter, and they come behind the place. -/
theorem foldl_descend_of_notMem {segments : List (List Char)} (noClimb : parent ∉ segments) :
    segments.foldl (descend absolute) place =
      (segments.filter fun segment => segment ≠ [] && segment ≠ current).reverse ++ place := by
  induction segments generalizing place with
  | nil => rfl
  | cons segment segments ih =>
      rw [List.mem_cons, not_or] at noClimb
      rw [List.foldl_cons, ih noClimb.2]
      by_cases stays : segment = [] ∨ segment = current
      · have skipped : descend absolute place segment = place := if_pos stays
        have unnamed : ¬ ((segment ≠ [] && segment ≠ current) = true) := by
          rcases stays with rfl | rfl <;> decide
        rw [skipped, List.filter_cons, if_neg unnamed]
      · have entered : descend absolute place segment = segment :: place := by
          rw [descend, if_neg stays, if_neg (Ne.symm noClimb.1)]
        have named : (segment ≠ [] && segment ≠ current) = true := by
          simpa [not_or] using stays
        rw [entered, List.filter_cons, if_pos named, List.reverse_cons, List.append_assoc]
        rfl

/-- A relative path behind a root: the path alone, or both with one slash between them at least. -/
theorem join_cases (root : String) {path : String} (relative : isAbsolute path = false) :
    (root = "" ∧ join root path = path) ∨
    ∃ before, (root.toList = before ∨ root.toList = before ++ ['/']) ∧ root ≠ "" ∧
      (join root path).toList = before ++ '/' :: path.toList := by
  by_cases nothing : root = ""
  · subst nothing
    exact .inl ⟨rfl, if_pos (by simp)⟩
  · refine .inr ?_
    have isRoot : ¬ (isAbsolute path || root.isEmpty) = true := by
      simp [relative, nothing]
    rw [join, if_neg isRoot]
    split_ifs with slashed
    · refine ⟨root.toList.dropLast, .inr ?_, nothing, ?_⟩
      · exact (List.dropLast_append_getLast? _ slashed).symm
      · calc (root ++ path).toList
            = (root.toList.dropLast ++ ['/']) ++ path.toList := by
              rw [String.toList_append, List.dropLast_append_getLast? _ slashed]
          _ = root.toList.dropLast ++ '/' :: path.toList := by
              rw [List.append_assoc]
              rfl
    · refine ⟨root.toList, .inl rfl, nothing, ?_⟩
      rw [String.toList_append, String.toList_append, List.append_assoc]
      rfl

theorem isAbsolute_join {root path : String} (relative : isAbsolute path = false) :
    isAbsolute (join root path) = isAbsolute root := by
  rcases join_cases root relative with ⟨rfl, same⟩ | ⟨before, isRoot, nonempty, split⟩
  · rw [same, relative]
    rfl
  · rw [isAbsolute, isAbsolute, split]
    cases before with
    | nil =>
        rcases isRoot with isRoot | isRoot
        · exact absurd (String.toList_eq_nil_iff.1 isRoot) nonempty
        · rw [isRoot]
          rfl
    | cons c before =>
        rcases isRoot with isRoot | isRoot
        · rw [isRoot]
          rfl
        · rw [isRoot]
          rfl

/-- The segments of a path behind a root are those of both, but for one that is empty. -/
theorem foldl_segments_join {root path : String} (relative : isAbsolute path = false)
    (place : List (List Char)) :
    (segments (join root path)).foldl (descend absolute) place =
      (segments path).foldl (descend absolute)
        ((segments root).foldl (descend absolute) place) := by
  have stays (place : List (List Char)) : [[]].foldl (descend absolute) place = place := by
    rw [List.foldl_cons, List.foldl_nil, descend, if_pos (.inl rfl)]
  rcases join_cases root relative with ⟨rfl, same⟩ | ⟨before, isRoot | isRoot, -, split⟩
  · rw [same, segments, segments, String.toList_empty, splitAll_nil, stays]
  · rw [segments, split, splitAll_append, List.foldl_append, segments, segments, isRoot]
  · rw [segments, split, splitAll_append, List.foldl_append, segments, segments, isRoot,
      splitAll_append, List.foldl_append, splitAll_nil, stays]

/-- Behind a root, a path that does not climb adds its names to those of the root. -/
theorem normalize_join {root path : String} (inside : escapes path = false) :
    normalize (join root path) =
      ⟨(normalize root).isAbsolute, (normalize root).names ++ namingSegments path⟩ := by
  rw [escapes, Bool.or_eq_false_iff] at inside
  obtain ⟨relative, noClimb⟩ := inside
  have noClimb : parent ∉ segments path := by simpa using noClimb
  rw [normalize, isAbsolute_join relative, foldl_segments_join relative,
    foldl_descend_of_notMem noClimb, List.reverse_append, List.reverse_reverse]
  rfl

/-- What is looked up is within the root. -/
theorem isWithin_of_locate? {root path full : String} (located : locate? root path = some full) :
    (normalize full).IsWithin (normalize root) := by
  rw [locate?] at located
  split_ifs at located with outside
  obtain rfl := Option.some.inj located
  have inside : escapes path = false := Bool.eq_false_iff.2 outside
  rw [normalize_join inside]
  refine ⟨rfl, namingSegments path, ?_, rfl⟩
  rw [parent_mem_namingSegments]
  rw [escapes, Bool.or_eq_false_iff] at inside
  simpa using inside.2

end Path

/-! ### Reading -/

namespace Source

/-- The text that some content is, for a resource of a source. -/
def textOf (source path : String) : Disk.Content → Except Failure String
  | .text text => .ok text
  | .missing => .error (.resourceNotFound source path)
  | .unreadable => .error .unreadable

/-- The text of a resource, where a look at the disk may have effects of any kind. -/
def readWith {m : Type → Type} [Monad m] (look : String → m Disk.Content) (s : Source)
    (path : String) : m (Except Failure String) :=
  match s with
  | memory name files =>
    match files[path]? with
    | some text => pure (.ok text)
    | none => pure (.error (.resourceNotFound (memory name files).describe path))
  | directory root =>
    match Path.locate? root path with
    | some full => do return textOf (directory root).describe path (← look full)
    | none => pure (.error (.resourceNotFound (directory root).describe path))

/-- A resource is read with looks that have no effects. -/
theorem read_eq_readWith (disk : Disk) (s : Source) (path : String) :
    s.read disk path = Id.run (s.readWith (fun full => pure (disk.read full)) path) := by
  cases s with
  | memory name files =>
      simp only [read, readWith]
      cases files[path]? with
      | some text => rfl
      | none => rfl
  | directory root =>
      simp only [read, readWith]
      cases Path.locate? root path with
      | some full => rfl
      | none => rfl

end Source

/-- A path is refused for a component that is the top of the file system or climbs, that is, if it
is absolute or one of its segments climbs.  What a path that is not refused leads to is the root or
below it: its normal form has the names of the root's, and then those of the path.  The text of a
resource is read by looking there and nowhere else; for a path that is refused nothing is looked
at, and the resource is not found. -/
theorem Path.locate?_confined (root path : String) :
    (locate? root path = none ↔
      ∃ component ∈ components path, component.staysInside = false) ∧
    (locate? root path = none ↔ isAbsolute path = true ∨ parent ∈ segments path) ∧
    (∀ full, locate? root path = some full →
      (normalize full).IsWithin (normalize root) ∧
      ∀ (m : Type → Type) [Monad m] (look : String → m Disk.Content),
        (Source.directory root).readWith look path =
          (do return Source.textOf ("dir:" ++ root) path (← look full))) ∧
    (locate? root path = none →
      ∀ (m : Type → Type) [Monad m] (look : String → m Disk.Content),
        (Source.directory root).readWith look path =
          pure (.error (.resourceNotFound ("dir:" ++ root) path))) ∧
    ∀ disk : Disk, (Source.directory root).read disk path =
      Id.run ((Source.directory root).readWith (fun full => pure (disk.read full)) path) := by
  refine ⟨?_, locate?_eq_none, fun full located => ⟨isWithin_of_locate? located, ?_⟩, ?_, ?_⟩
  · rw [← escapes_iff, locate?]
    cases escapes path <;> simp
  · intro m monad look
    simp only [Source.readWith, located]
    rfl
  · intro refused m monad look
    simp only [Source.readWith, refused]
    rfl
  · exact fun disk => Source.read_eq_readWith disk _ path

/-- Behind a root, a path with needless slashes and dots is looked up as it is written, and one that
goes down before it climbs is refused. -/
theorem Path.locate?_confined_ownRoot :
    locate? "mods/own/" "./a//b.json" = some "mods/own/./a//b.json" ∧
    (normalize "mods/own/./a//b.json").IsWithin (normalize "mods/own/") ∧
    locate? "mods/own/" "a/../b.json" = none ∧
    (Source.directory "mods/own/").read (fun _ => .text "") "a/../b.json" =
      .error (.resourceNotFound "dir:mods/own/" "a/../b.json") := by
  have located : locate? "mods/own/" "./a//b.json" = some "mods/own/./a//b.json" := by
    decide +kernel
  have refused : locate? "mods/own/" "a/../b.json" = none := by decide +kernel
  obtain ⟨-, -, inside, -, -⟩ := locate?_confined "mods/own/" "./a//b.json"
  obtain ⟨-, -, -, unread, reading⟩ := locate?_confined "mods/own/" "a/../b.json"
  refine ⟨located, (inside _ located).1, refused, ?_⟩
  rw [reading, unread refused Id]
  rfl

end MixinIndex
