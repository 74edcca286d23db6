import MixinIndex.Store.Run

/-!
# Sessions

A workspace together with the calls that are under way.  Any of them may go on at any time, and
any number of others may begin, go on and return while one is stopped.

## Main definitions

* `Work.advance`: do a piece of work up to the next point where it may be interrupted
* `Session`: a workspace, the calls on it, and what has happened so far
* `Session.step`, `Session.run`: what one move does, and several moves in order

## Design notes

A call stops where it looks up a project, where it reads, where it waits, and where it begins anew.
Requests that change what is registered, or the sources and declarations, never stop.  Moves that
are not possible leave a session as it is, so every list of moves is a run.
-/

namespace MixinIndex

namespace Work

/-- Do a piece of work up to the next point where it may be interrupted. -/
def advance {α : Type} : Work α → Workspace → Work α × Workspace
  | look next, w => advance (next w) w
  | change f next, w => advance next (f w)
  | work, w => (work, w)

/-- Whether work has stopped before its end. -/
def isSuspended {α : Type} : Work α → Bool
  | resolve .. | .read .. | wait .. | restart => true
  | _ => false

end Work

/-- A call: its request, the registration that it has found in force, and what remains to be
done. -/
structure Call where
  operation : Operation
  bound : Option Generation
  work : Work Answer

/-- A call has looked up which registration of a project is in force. -/
structure Lookup where
  operation : Operation
  project : String
  bound : Option Generation

/-- A resource has been read for a registration. -/
structure Reading where
  bound : Option Generation
  source : String
  path : String
  resource : Except Failure String

/-- A workspace, the calls on it in the order in which they began, and what has happened so
far. -/
structure Session where
  workspace : Workspace
  calls : List Call := []
  lookups : List Lookup := []
  readings : List Reading := []
  /-- The workspace after each move so far, and before the first. -/
  past : List Workspace := [workspace]

/-- What may happen next. -/
inductive Move where
  /-- A call begins. -/
  | call (operation : Operation)
  /-- The call of a number goes on. -/
  | resume (i : Nat)
  /-- All but the registrations becomes as it is in another workspace. -/
  | outside (w : Workspace)

namespace Session

/-- A session on a workspace in which nothing has been registered yet. -/
def start (w : Workspace) : Session where
  workspace := { w with registry := .empty }

/-- The workspace is changed. -/
def become (s : Session) (w : Workspace) : Session :=
  { s with workspace := w, past := s.past ++ [w] }

/-- A lookup is recorded. -/
def noteLookup (s : Session) (lookup : Lookup) : Session :=
  { s with lookups := s.lookups ++ [lookup] }

/-- A reading is recorded. -/
def noteReading (s : Session) (reading : Reading) : Session :=
  { s with readings := s.readings ++ [reading] }

/-- A call begins. -/
def begin (s : Session) (operation : Operation) : Session :=
  let after := operation.work.advance s.workspace
  { s.become after.2 with calls := s.calls ++ [{ operation, bound := none, work := after.1 }] }

/-- The call of a number goes on, with the work of a given call. -/
def proceed (s : Session) (i : Nat) (call : Call) : Session :=
  let after := call.work.advance s.workspace
  { s.become after.2 with calls := s.calls.set i { call with work := after.1 } }

/-- A suspended call goes on, if it can. -/
def resume (s : Session) (i : Nat) (call : Call) : Session :=
  match call.work with
  | .resolve project next =>
    let bound := s.workspace.current? project
    let noted := s.noteLookup ⟨call.operation, project, bound⟩
    noted.proceed i { call with bound, work := next bound }
  | .read source path next =>
    let resource := s.workspace.read source path
    let noted := s.noteReading ⟨call.bound, source, path, resource⟩
    noted.proceed i { call with work := next resource }
  | .wait ready next => if ready s.workspace then s.proceed i { call with work := next } else s
  | .restart => s.proceed i { call with bound := none, work := call.operation.work }
  | _ => s

/-- One move. -/
def step (s : Session) : Move → Session
  | .call operation => s.begin operation
  | .resume i =>
    match s.calls[i]? with
    | some call => s.resume i call
    | none => s
  | .outside w => s.become { w with config := s.workspace.config, registry := s.workspace.registry }

theorem step_resume {s : Session} {i : Nat} {call : Call} (here : s.calls[i]? = some call) :
    s.step (.resume i) = s.resume i call := by
  rw [step, here]

theorem step_resume_of_none {s : Session} {i : Nat} (absent : s.calls[i]? = none) :
    s.step (.resume i) = s := by
  rw [step, absent]

/-- Several moves in order. -/
def run (s : Session) (moves : List Move) : Session := moves.foldl step s

end Session

end MixinIndex
