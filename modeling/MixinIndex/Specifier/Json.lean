import MixinIndex.Declaration.Json
import MixinIndex.Specifier.Basic

/-!
# Specifiers in JSON

## Main definitions

* `Descriptor.encode`, `Quantifier.encode`, `Specifier.encode`: all fields
-/

namespace MixinIndex

/-- The fields of a descriptor. -/
def Descriptor.encodeFields (d : Descriptor) : List (String × Json) :=
  [("params", .array (d.parameters.map Signature.encode)), ("return_type", d.result.encode)]

/-- A descriptor. -/
def Descriptor.encode (d : Descriptor) : Json := .object d.encodeFields

/-- A quantifier, whose last position is null where there is no end. -/
def Quantifier.encode (q : Quantifier) : Json :=
  .object [("lower_bound", .ofNat q.first), ("upper_bound", .ofOption .ofNat q.last),
    ("minimum_matches", .ofNat q.minimum), ("token", .string q.token)]

/-- The fields of a specifier. -/
def Specifier.encodeFields (spec : Specifier) : List (String × Json) :=
  [("owner", .ofOption TypeName.encode spec.owner), ("name", .ofOption .string spec.name),
    ("descriptor", .ofOption Descriptor.encode spec.descriptor),
    ("quantifier", spec.quantifier.encode), ("raw", .string spec.raw)]

/-- A specifier. -/
def Specifier.encode (spec : Specifier) : Json := .object spec.encodeFields

end MixinIndex
