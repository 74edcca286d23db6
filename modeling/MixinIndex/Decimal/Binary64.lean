/-!
# Double-precision magnitudes

A finite, non-negative double is a mantissa below 2 ^ 53 times a power of two.  All arithmetic on
it is exact arithmetic on naturals followed by one rounding, to nearest and to even on a tie.

## Main definitions

* `Binary64`: mantissa and exponent of a finite magnitude
* `Binary64.round?`: the magnitude nearest to a fraction, `none` where that is infinity
* `Binary64.ofParts?`: a significand scaled by a power of ten, in two roundings
-/

namespace MixinIndex

/-- The magnitude `mantissa * 2 ^ exponent`. -/
structure Binary64 where
  mantissa : Nat
  exponent : Int
  deriving DecidableEq

namespace Binary64

/-- The least exponent, that of the subnormal magnitudes. -/
def minExponent : Int := -1074

/-- The greatest exponent of a finite magnitude. -/
def maxExponent : Int := 971

/-- The magnitude zero. -/
def zero : Binary64 := ⟨0, minExponent⟩

/-! ### Rounding -/

/-- The fraction `num / den` times a power of two, as a fraction. -/
def shift (num den : Nat) : Int → Nat × Nat
  | .ofNat n => (num * Nat.pow 2 n, den)
  | .negSucc n => (num, den * Nat.pow 2 (n + 1))

/-- The whole number nearest to `num / den`, the even one of two equally near. -/
def nearest (num den : Nat) : Nat :=
  let quotient := num / den
  let remainder := num % den
  if 2 * remainder < den then quotient
  else if den < 2 * remainder then quotient + 1
  else if quotient % 2 = 0 then quotient
  else quotient + 1

/-- The exponent of the greatest power of two not above `num / den`, both positive. -/
def log2 (num den : Nat) : Int :=
  let estimate : Int := (num.log2 : Int) - (den.log2 : Int)
  let scaled := shift num den (-estimate)
  if scaled.1 < scaled.2 then estimate - 1 else estimate

/-- The magnitude nearest to `num / den`, or `none` where that is infinity. -/
def round? (num den : Nat) : Option Binary64 :=
  if num = 0 then some zero
  else
    let exponent := max minExponent (log2 num den - 52)
    let scaled := shift num den (-exponent)
    let mantissa := nearest scaled.1 scaled.2
    let rounded : Binary64 :=
      if mantissa = Nat.pow 2 53 then ⟨Nat.pow 2 52, exponent + 1⟩ else ⟨mantissa, exponent⟩
    if maxExponent < rounded.exponent then none else some rounded

/-! ### Scaling by powers of ten -/

/-- The magnitude as a fraction. -/
def toFraction (x : Binary64) : Nat × Nat := shift x.mantissa 1 x.exponent

/-- The rounded product. -/
def mul? (x y : Binary64) : Option Binary64 :=
  let a := x.toFraction
  let b := y.toFraction
  round? (a.1 * b.1) (a.2 * b.2)

/-- The rounded quotient by a positive magnitude. -/
def div? (x y : Binary64) : Option Binary64 :=
  let a := x.toFraction
  let b := y.toFraction
  round? (a.1 * b.2) (a.2 * b.1)

/-- The greatest power of ten that is a finite magnitude has this exponent. -/
def maxPower : Nat := 308

/-- The magnitude nearest to a power of ten. -/
def power? (n : Nat) : Option Binary64 := round? (Nat.pow 10 n) 1

/-- Divide by 10 ^ 308 the given number of times, as long as something is left to divide. -/
def shrink? : Nat → Binary64 → Option Binary64
  | 0, x => some x
  | n + 1, x =>
    if x.mantissa = 0 then some x
    else do shrink? n (← x.div? (← power? maxPower))

/-- A significand times a power of ten: the rounded significand is multiplied or divided by a
rounded power, by 10 ^ 308 first as often as the exponent asks for it.  `none` is too large. -/
def ofParts? (significand : Nat) (exponent : Int) : Option Binary64 := do
  let x ← round? significand 1
  if x.mantissa = 0 then
    return x
  match exponent with
  | .ofNat n => if n ≤ maxPower then x.mul? (← power? n) else none
  | .negSucc n =>
    let steps := n / maxPower
    let y ← shrink? steps x
    if y.mantissa = 0 then return y else y.div? (← power? (n + 1 - steps * maxPower))

end Binary64

end MixinIndex
