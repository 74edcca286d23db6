/-!
# Diagnostics

Problems found while resolving that never stop the work: each names a kind, a subject and a
message.  Only an explicit quantifier that matches nothing is a mere warning.

## Main definitions

* `Diagnostic`: one report
* `Diagnostic.Kind`, `Diagnostic.Severity`: its classification
* `Diagnostic.display`: the report on one line
-/

namespace MixinIndex

namespace Diagnostic

/-- How serious a report is. -/
inductive Severity where
  | warning
  | error
  deriving DecidableEq

/-- The word for a severity. -/
def Severity.text : Severity → String
  | warning => "warning"
  | error => "error"

/-- What a report is about. -/
inductive Kind where
  /-- A specifier that cannot be read. -/
  | syntaxError
  /-- A metadata or config file of the wrong shape. -/
  | schema
  /-- A target that the inspected type does not have. -/
  | targetNotFound
  /-- A bare name that several members share. -/
  | ambiguousTarget
  /-- Fewer matches than the quantifier demands. -/
  | quantifierUnsatisfied
  /-- No match where none is demanded. -/
  | quantifierEmpty
  deriving DecidableEq

/-- The word for a kind. -/
def Kind.text : Kind → String
  | syntaxError => "syntax"
  | schema => "schema"
  | targetNotFound => "target_not_found"
  | ambiguousTarget => "ambiguous_target"
  | quantifierUnsatisfied => "quantifier_unsatisfied"
  | quantifierEmpty => "quantifier_empty"

/-- All kinds. -/
def Kind.all : List Kind :=
  [syntaxError, schema, targetNotFound, ambiguousTarget, quantifierUnsatisfied, quantifierEmpty]

/-- The kind with a given word. -/
def Kind.ofText? (text : String) : Option Kind := Kind.all.find? (·.text == text)

/-- The severity of the reports of a kind. -/
def Kind.severity : Kind → Severity
  | quantifierEmpty => .warning
  | _ => .error

theorem Kind.ofText?_text (kind : Kind) : ofText? kind.text = some kind := by
  cases kind <;> decide

end Diagnostic

/-- A report: its kind, what it is about, and the message. -/
structure Diagnostic where
  kind : Diagnostic.Kind
  subject : String
  message : String
  deriving DecidableEq

namespace Diagnostic

/-- The severity of a report is that of its kind. -/
def severity (d : Diagnostic) : Severity := d.kind.severity

/-- Whether a report is an error. -/
def isError (d : Diagnostic) : Bool := d.severity == .error

/-- The report on one line. -/
def display (d : Diagnostic) : String :=
  "[" ++ d.kind.text ++ "] " ++ d.subject ++ ": " ++ d.message

end Diagnostic

end MixinIndex
