import MixinIndex.Declaration.Member

/-!
# Augmentation entries

An augmenting type changes members of its targets through its methods, the handlers.  Each use of
a handler is an entry: how it applies, the handler, and how its target is located.

## Main definitions

* `Augmentation.Kind`: the four ways a handler applies
* `Augmentation.Handler`: the augmenting method
* `Augmentation.Target`, `Augmentation.Entry`: what is aimed at, and by whom
-/

namespace MixinIndex.Augmentation

open Std (TransOrd TransCmp LawfulEqOrd LawfulEqCmp)

/-- How a handler applies to a target member; an injector goes by its annotation's simple name. -/
inductive Kind where
  | overwrite
  | accessor
  | invoker
  | injector (name : String)
  deriving DecidableEq

namespace Kind

/-- The injector of an annotation, which may be named in full. -/
def ofInjector (qualified : String) : Kind := .injector <| Annotation.simpleNameOf qualified

/-- The place of a kind among the four. -/
def rank : Kind → Nat
  | overwrite => 0
  | accessor => 1
  | invoker => 2
  | injector _ => 3

/-- The annotation's name of an injector, nothing for the other kinds. -/
def injectorName : Kind → String
  | injector name => name
  | _ => ""

theorem ext_iff' {a b : Kind} : a = b ↔ a.rank = b.rank ∧ a.injectorName = b.injectorName := by
  cases a <;> cases b <;> simp [rank, injectorName]

/-- Kinds are ordered by their place, injectors by their names. -/
def order : Kind → Kind → Ordering := compareLex (compareOn rank) (compareOn injectorName)

instance : Ord Kind := ⟨order⟩

instance : TransOrd Kind := inferInstanceAs (TransCmp (compareLex _ _))

instance : LawfulEqOrd Kind where
  eq_of_compare {a b} h := by
    have : order a b = .eq := h
    simp only [order, compareLex_eq_eq, compareOn, LawfulEqCmp.compare_eq_iff_eq] at this
    exact ext_iff'.2 this

/-- The annotation as it is written on a handler. -/
def label : Kind → String
  | overwrite => "@Overwrite"
  | accessor => "@Accessor"
  | invoker => "@Invoker"
  | injector name => "@" ++ name

end Kind

/-- The method of an augmenting type that carries an augmentation. -/
structure Handler where
  augmentingType : TypeName
  name : String
  parameters : List Signature
  result : Signature
  deriving DecidableEq

namespace Handler

/-- Handlers are ordered by type, then name, then parameters, then result. -/
def order : Handler → Handler → Ordering :=
  compareLex (compareOn (·.augmentingType)) <|
    compareLex (compareOn (·.name)) <|
      compareLex (compareOn (·.parameters)) (compareOn (·.result))

instance : Ord Handler := ⟨order⟩

instance : TransOrd Handler := inferInstanceAs (TransCmp (compareLex _ _))

instance : LawfulEqOrd Handler where
  eq_of_compare {a b} h := by
    have : order a b = .eq := h
    simp only [order, compareLex_eq_eq, compareOn, LawfulEqCmp.compare_eq_iff_eq] at this
    cases a
    cases b
    simp_all

/-- The handler that a method of an augmenting type is. -/
def ofMember (augmentingType : TypeName) (m : Member) : Handler :=
  ⟨augmentingType, m.name, m.parameters, m.result⟩

/-- Parameters and result. -/
def descriptor (h : Handler) : Descriptor := ⟨h.parameters, h.result⟩

/-- A handler without parameters reads, any other writes. -/
def isGetter (h : Handler) : Bool := h.parameters.isEmpty

/-- The handler on one line. -/
def display (h : Handler) : String :=
  h.augmentingType.text ++ "." ++ h.name ++ h.descriptor.text

end Handler

/-- How an entry locates its target. -/
inductive Target where
  /-- By the specifier grammar. -/
  | specifier (spec : Specifier)
  /-- By a bare name: the field of an accessor, the method of an overwrite. -/
  | name (name : String)
  deriving DecidableEq

/-- The target as written. -/
def Target.display : Target → String
  | .specifier spec => spec.raw
  | .name text => text

/-- One use of a handler. -/
structure Entry where
  kind : Kind
  handler : Handler
  target : Target
  deriving DecidableEq

end MixinIndex.Augmentation
