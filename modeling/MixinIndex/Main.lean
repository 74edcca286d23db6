import MixinIndex.Inspector.Report
import MixinIndex.Json.Writer

/-!
# The inspector

The command line: reads the files that a request needs and prints its report.
-/

namespace MixinIndex

/-- Read a file. -/
def readContent (path : String) : IO Disk.Content := do
  if '\x00' ∈ path.toList then return .unreadable
  try
    match String.fromUTF8? (← IO.FS.readBinFile path) with
    | some text => return .text text
    | none => return .unreadable
  catch
    | .noFileOrDirectory .. => return .missing
    | _ => return .unreadable

/-- Files by their paths. -/
abbrev FileTable := List (String × Disk.Content)

/-- The disk that holds the files read so far. -/
def FileTable.disk (table : FileTable) : Disk := fun path =>
  (table.lookup path).getD .missing

/-- Read the files that are needed and not yet read. -/
def readMore (arguments : Arguments) (table : FileTable) : IO FileTable :=
  (arguments.paths table.disk).foldlM (fun table path => do
    if (table.lookup path).isSome then return table
    return (path, ← readContent path) :: table) table

/-- Read all files that a request needs: those that the arguments name, then the metadata, then
the configs. -/
def readAll : Request → IO FileTable
  | .inspect arguments => do
    let named ← readMore arguments []
    let withMetadata ← readMore arguments named
    readMore arguments withMetadata
  | _ => return []

/-- What is shown to somebody who asks for help. -/
def helpText : String :=
  "Print the mixin index of a project\n\n" ++
  "Usage: mixin-inspect [OPTIONS] --project <PROJECT> --declarations <DECLARATIONS>\n\n" ++
  "Options:\n" ++
  "  -p, --project <PROJECT>            Project directory\n" ++
  "  -d, --declarations <DECLARATIONS>  JSON array of type declarations\n" ++
  "      --classpath <CLASSPATH>        Resource root of a dependency mod (repeatable)\n" ++
  "  -c, --config <CONFIG>              Resolver config (YAML)\n" ++
  "  -t, --target <TARGET>              Also resolve the augmentations applied to this class\n" ++
  "  -h, --help                         Print help"

/-- Answer a request on the command line. -/
def inspect (arguments : List String) : IO UInt32 := do
  let request := Request.parse arguments
  let outcome := request.outcome (← readAll request).disk
  match outcome.report with
  | some report => IO.println report.pretty
  | none =>
    if request = .help then IO.println helpText
    else if request = .misuse then IO.eprintln helpText
    else IO.eprintln "Error: the report cannot be made"
  return outcome.status.toUInt32

end MixinIndex

/-- The command line. -/
def main (arguments : List String) : IO UInt32 := MixinIndex.inspect arguments
