import MixinIndex.Augmentation.Bucket
import MixinIndex.Specifier.Json

/-!
# Augmentations in JSON

## Main definitions

* `Augmentation.Kind.decode?` and `encode`: a kind by its word, an injector with its name
* `Augmentation.Entry.encode`: one use of a handler
* `Augmentation.Summary.encode`: what is gathered under one key
* `Diagnostic.encode`: a report
-/

namespace MixinIndex

/-- A report. -/
def Diagnostic.encode (d : Diagnostic) : Json :=
  .object [("kind", .string d.kind.text), ("severity", .string d.severity.text),
    ("subject", .string d.subject), ("message", .string d.message)]

namespace Augmentation

namespace Kind

/-- The word for a kind; an injector is an object with its annotation's name. -/
def encode : Kind → Json
  | overwrite => .string "overwrite"
  | accessor => .string "accessor"
  | invoker => .string "invoker"
  | injector name => .object [("injector", .string name)]

/-- A kind by its word, or an injector by its annotation. -/
def decode? : Json → Option Kind
  | .string "overwrite" => some .overwrite
  | .string "accessor" => some .accessor
  | .string "invoker" => some .invoker
  | .object [("injector", .string annotation)] => some (.ofInjector annotation)
  | _ => none

end Kind

/-- A handler. -/
def Handler.encode (h : Handler) : Json :=
  .object ([("augmenting_type", h.augmentingType.encode), ("name", .string h.name)] ++
    h.descriptor.encodeFields)

/-- A target: a specifier or a name. -/
def Target.encode : Target → Json
  | .specifier spec => .object [("specifier", spec.encode)]
  | .name text => .object [("name", .string text)]

/-- One use of a handler. -/
def Entry.encode (e : Entry) : Json :=
  .object [("kind", e.kind.encode), ("handler", e.handler.encode), ("target", e.target.encode)]

/-- What is gathered under one key, with the handlers that read and those that write. -/
def Summary.encode (s : Summary) : Json :=
  .object [("member", s.member.encode), ("kind", s.kind.encode),
    ("handlers", .array (s.handlers.map Handler.encode)), ("getters", .ofNat s.getters),
    ("setters", .ofNat s.setters)]

end Augmentation

end MixinIndex
