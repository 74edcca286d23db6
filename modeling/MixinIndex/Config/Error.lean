import MixinIndex.Config.Basic

/-!
# Configuration errors

## Main definitions

* `Config.Error`: why a configuration cannot be used
* `Config.Error.message`: the report; the reports of an unreadable text or file are left open
-/

namespace MixinIndex.Config

/-- The version of the format that is understood. -/
def supportedVersion : Nat := 1

/-- Why a configuration cannot be used. -/
inductive Error where
  | missingVersion
  | unsupportedVersion (found : Nat)
  | invalid (cause : Invalid)
  /-- The text is no YAML of the expected shape. -/
  | unreadableText
  /-- The file cannot be read. -/
  | unreadableFile
  deriving DecidableEq

/-- The report of an error. -/
def Error.message : Error → String
  | missingVersion =>
    "Missing 'version' field in configuration file. Add 'version: 1' to the top of your YAML file."
  | unsupportedVersion found =>
    "Unsupported configuration version " ++ toString found ++ ". Supported versions: " ++
      toString supportedVersion
  | invalid cause => "Invalid value for field '" ++ cause.field ++ "': " ++ cause.reason
  | unreadableText => "YAML parsing error"
  | unreadableFile => "IO error"

end MixinIndex.Config
