import MixinIndex.Config.Error
import MixinIndex.Specifier.Basic

/-!
# Failures

Why a file cannot be used or a request about a project cannot be answered.

## Main definitions

* `Failure`: the causes
* `Failure.kind`: the word for a cause's kind
* `Failure.isFileLocal`: whether the trouble is confined to one file
* `Failure.message`: the report, kind included
-/

namespace MixinIndex

/-- Why a file cannot be used or a request cannot be answered. -/
inductive Failure where
  /-- A metadata or config file of the wrong shape. -/
  | schema (file reason : String)
  /-- A file that is there and cannot be read as text. -/
  | unreadable
  /-- A text that is no JSON. -/
  | notJson
  /-- A resource that its source does not have. -/
  | resourceNotFound (source path : String)
  /-- A project that is not registered. -/
  | projectNotFound (project : String)
  /-- A type that the project does not declare. -/
  | typeNotFound (type : TypeName)
  /-- A specifier that cannot be read. -/
  | specifier (error : SyntaxError)
  /-- A configuration that cannot be used. -/
  | config (error : Config.Error)
  deriving DecidableEq

namespace Failure

/-- The word for a cause's kind. -/
def kind : Failure → String
  | schema .. => "schema"
  | unreadable => "io"
  | notJson => "json"
  | resourceNotFound .. => "resource_not_found"
  | projectNotFound _ => "project_not_found"
  | typeNotFound _ => "type_not_found"
  | specifier _ => "resolve"
  | config _ => "resolve"

/-- Whether the trouble is confined to one file, so that the others are still of use. -/
def isFileLocal : Failure → Bool
  | schema .. => true
  | notJson => true
  | resourceNotFound .. => true
  | _ => false

/-- What is said about a cause. -/
def text : Failure → String
  | schema file reason => file ++ ": " ++ reason
  | unreadable => "I/O error"
  | notJson => "JSON error"
  | resourceNotFound source path => "Resource not found in " ++ source ++ ": " ++ path
  | projectNotFound project => "Project not found: " ++ project
  | typeNotFound type => "Type not declared: " ++ type.text
  | specifier error => error.message
  | config error => error.message

/-- The report of a cause. -/
def message (f : Failure) : String := "[" ++ f.kind ++ "] " ++ f.text

end Failure

end MixinIndex
