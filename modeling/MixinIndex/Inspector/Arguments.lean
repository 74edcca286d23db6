import MixinIndex.Text.Split

/-!
# Arguments of the inspector

```text
--project DIR, -p DIR          the project
--declarations FILE, -d FILE   its declared types
--classpath DIR                a mod it depends on; may be repeated
--config FILE, -c FILE         the configuration
--target TYPE, -t TYPE         a type whose augmentations are wanted
--help, -h                     this list
```

## Main definitions

* `Arguments`: what the arguments ask for
* `Request`: arguments, a wish for help, or neither
* `Request.parse`: the request that a list of arguments makes

## Design notes

The arguments are gone through from the left, and the first that is wrong, or asks for help,
settles the matter.  A value stands in the same argument as its option or in the next one, where
it must not look like an option itself.
-/

namespace MixinIndex

open Text

/-- What the arguments ask for. -/
structure Arguments where
  project : String
  declarations : String
  classpath : List String
  config : Option String
  target : Option String
  deriving DecidableEq

/-- What a list of arguments comes to. -/
inductive Request where
  | inspect (arguments : Arguments)
  | help
  | misuse
  deriving DecidableEq

namespace Request

/-- The options that take a value. -/
inductive Setting where
  | project
  | declarations
  | classpath
  | config
  | target
  deriving DecidableEq

/-- The option of a long name. -/
def Setting.ofName? (name : List Char) : Option Setting :=
  if name = "project".toList then some project
  else if name = "declarations".toList then some declarations
  else if name = "classpath".toList then some classpath
  else if name = "config".toList then some config
  else if name = "target".toList then some target
  else none

/-- The option of a letter. -/
def Setting.ofLetter? : Char → Option Setting
  | 'p' => some project
  | 'd' => some declarations
  | 'c' => some config
  | 't' => some target
  | _ => none

/-- What one argument is. -/
inductive Argument where
  | help
  | misplaced
  /-- An option with its value. -/
  | complete (setting : Setting) (value : String)
  /-- An option whose value is the next argument. -/
  | awaiting (setting : Setting)

/-- An argument that starts with two dashes, without them. -/
def longArgument (cs : List Char) : Argument :=
  match splitFirst? '=' cs with
  | some (name, value) =>
    match Setting.ofName? name with
    | some setting => .complete setting (String.ofList value)
    | none => .misplaced
  | none =>
    if cs = "help".toList then .help
    else
      match Setting.ofName? cs with
      | some setting => .awaiting setting
      | none => .misplaced

/-- An argument that starts with one dash: its letter, and what follows. -/
def shortArgument (letter : Char) (rest : List Char) : Argument :=
  if letter = 'h' then .help
  else
    match Setting.ofLetter? letter, rest with
    | none, _ => .misplaced
    | some setting, [] => .awaiting setting
    | some setting, '=' :: value => .complete setting (String.ofList value)
    | some setting, value => .complete setting (String.ofList value)

/-- What one argument is. -/
def Argument.ofText (text : String) : Argument :=
  match text.toList with
  | '-' :: '-' :: rest => longArgument rest
  | '-' :: letter :: rest => shortArgument letter rest
  | _ => .misplaced

/-- Whether an argument looks like an option, and so cannot be the value of one. -/
def looksLikeOption (text : String) : Bool :=
  match text.toList with
  | '-' :: _ :: _ => true
  | _ => false

/-- The settings so far. -/
structure Draft where
  project : Option String := none
  declarations : Option String := none
  classpath : List String := []
  config : Option String := none
  target : Option String := none

namespace Draft

/-- Make a setting that may be made once. -/
def once? (current : Option String) (value : String) : Option (Option String) :=
  if current.isSome then none else some (some value)

/-- Make a setting; a path must not be empty. -/
def set? (d : Draft) (setting : Setting) (value : String) : Option Draft :=
  if setting ≠ .target ∧ value.isEmpty then none
  else
    match setting with
    | .project => (once? d.project value).map fun project => { d with project := project }
    | .declarations => (once? d.declarations value).map fun text => { d with declarations := text }
    | .classpath => some { d with classpath := d.classpath ++ [value] }
    | .config => (once? d.config value).map fun config => { d with config := config }
    | .target => (once? d.target value).map fun target => { d with target := target }

/-- The request of complete settings. -/
def finish (d : Draft) : Request :=
  match d.project, d.declarations with
  | some project, some declarations =>
    .inspect ⟨project, declarations, d.classpath, d.config, d.target⟩
  | _, _ => .misuse

end Draft

/-- The request that the rest of the arguments makes. -/
def parseFrom (d : Draft) : List String → Request
  | [] => d.finish
  | argument :: rest =>
    if argument = "--" then (if rest.isEmpty then d.finish else .misuse)
    else
      match Argument.ofText argument with
      | .help => .help
      | .misplaced => .misuse
      | .complete setting value =>
        match d.set? setting value with
        | some d => parseFrom d rest
        | none => .misuse
      | .awaiting setting =>
        match rest with
        | [] => .misuse
        | value :: rest =>
          if looksLikeOption value then .misuse
          else
            match d.set? setting value with
            | some d => parseFrom d rest
            | none => .misuse

/-- The request that a list of arguments makes. -/
def parse (arguments : List String) : Request := parseFrom {} arguments

end Request

end MixinIndex
