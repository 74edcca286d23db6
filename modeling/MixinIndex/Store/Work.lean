import MixinIndex.Store.Workspace

/-!
# Work

Reading a resource may take long, and other requests may be served meanwhile.  So what a request
has to do is written down as a piece of work that can stop at a reading and go on later, with the
text that has arrived and the workspace as it is then.

## Main definitions

* `Work`: what remains to be done for a request
* `Reader`: a way of reading, during which the workspace may change
* `Work.attempt`: do a piece of work up to its end, with a given way of reading
* `Work.complete`: the same, beginning anew as often as that is called for

## Design notes

Between two readings a piece of work is not disturbed.  It may also stop to wait: until an event
on the same registration has been applied, or a build that somebody else has begun is complete.
Work keeps hold of a registration by its number, and looks up again, after each reading, what it
needs of the workspace.
-/

namespace MixinIndex

/-- What remains to be done for a request. -/
inductive Work (α : Type) where
  /-- Nothing: here is the result. -/
  | done (result : α)
  /-- Look at the workspace. -/
  | look (next : Workspace → Work α)
  /-- Change the workspace. -/
  | change (f : Workspace → Workspace) (next : Work α)
  /-- Find out which registration of a project is in force, and work for that one. -/
  | resolve (project : String) (next : Option Generation → Work α)
  /-- Read a resource. -/
  | read (source path : String) (next : Except Failure String → Work α)
  /-- Wait until the workspace is ready. -/
  | wait (ready : Workspace → Bool) (next : Work α)
  /-- Begin the whole request anew. -/
  | restart

namespace Work

/-- Go on with the result of a piece of work. -/
def bind {α β : Type} : Work α → (α → Work β) → Work β
  | done result, f => f result
  | look next, f => look fun w => (next w).bind f
  | change g next, f => change g (next.bind f)
  | resolve project next, f => resolve project fun g => (next g).bind f
  | read source path next, f => read source path fun resource => (next resource).bind f
  | wait ready next, f => wait ready (next.bind f)
  | restart, _ => restart

instance : Monad Work where
  pure := done
  bind := bind

/-- Look at the workspace. -/
def workspace : Work Workspace := look done

/-- Find out which registration of a project is in force. -/
def currentOf (project : String) : Work (Option Generation) := resolve project done

/-- Read a resource. -/
def resource (source path : String) : Work (Except Failure String) := read source path done

/-- Change what was built for a registration, in the light of the workspace. -/
def modify (g : Generation) (f : Workspace → Progress → Progress) : Work Unit :=
  change (fun w => w.modify g (f w)) (done ())

/-- Wait until the workspace is ready. -/
def await (ready : Workspace → Bool) : Work Unit := wait ready (done ())

end Work

/-! ### Doing work -/

/-- A way of reading a resource by its source and path.  It answers with the text and with the
workspace as it is when the text arrives, or not at all. -/
abbrev Reader := String → String → Workspace → Option (Except Failure String × Workspace)

/-- Read a resource while nothing else happens. -/
def Workspace.readResource : Reader := fun source path w => some (w.read source path, w)

namespace Work

/-- Do a piece of work up to its end: its result, or `none` in its place if the request has to
begin anew.  Work that waits for what nobody will do has no end. -/
def attempt {α : Type} (read : Reader) : Work α → Workspace → Option (Option α × Workspace)
  | done result, w => some (some result, w)
  | look next, w => attempt read (next w) w
  | change f next, w => attempt read next (f w)
  | resolve project next, w => attempt read (next (w.current? project)) w
  | .read source path next, w =>
    (read source path w).bind fun (resource, w) => attempt read (next resource) w
  | wait ready next, w => if ready w then attempt read next w else none
  | restart, w => some (none, w)

/-- Do a piece of work up to its result, with a bound on how often it begins. -/
def complete {α : Type} (read : Reader) (work : Work α) : Nat → Workspace → Option (α × Workspace)
  | 0, _ => none
  | attempts + 1, w =>
    (work.attempt read w).bind fun
      | (some result, w) => some (result, w)
      | (none, w) => complete read work attempts w

end Work

end MixinIndex
