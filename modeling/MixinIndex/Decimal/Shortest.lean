import MixinIndex.Decimal.Binary64

/-!
# Shortest decimals

The fewest digits that read back as a given double, and the text made of them.  The grids of
multiples of a power of ten are tried from coarse to fine; on each the two neighbours of the
value are candidates, and the first grid with a candidate inside the rounding interval wins.

## Main definitions

* `Binary64.shortest`: digits and power of ten of the shortest decimal
* `DecimalFormat`: where the positional form ends
* `Binary64.render`: the text of a magnitude
-/

namespace MixinIndex

/-- The decimal `digits * 10 ^ exponent`. -/
structure ShortDecimal where
  digits : Nat
  exponent : Int
  deriving DecidableEq

namespace Binary64

/-- The rounding interval of a magnitude as fractions over one denominator: its lower end, the
value, its upper end and the denominator. -/
def interval (x : Binary64) : Nat × Nat × Nat × Nat :=
  let scale := shift 1 1 (x.exponent - 2)
  let gapBelow := if x.mantissa = Nat.pow 2 52 ∧ minExponent < x.exponent then 1 else 2
  ((4 * x.mantissa - gapBelow) * scale.1, 4 * x.mantissa * scale.1,
    (4 * x.mantissa + 2) * scale.1, scale.2)

/-- The candidate on the grid of multiples of `10 ^ power`, if one reads back as the value. -/
def onGrid? (x : Binary64) (power : Int) : Option Nat :=
  let (low, value, high, den) := x.interval
  -- the grid's unit is `up / down`
  let (up, down) : Nat × Nat := match power with
    | .ofNat n => (Nat.pow 10 n, 1)
    | .negSucc n => (1, Nat.pow 10 (n + 1))
  let unit := up * den
  let below := value * down / unit
  let inside (k : Nat) : Bool :=
    if x.mantissa % 2 = 0 then
      low * down ≤ k * unit && k * unit ≤ high * down
    else low * down < k * unit && k * unit < high * down
  let distanceBelow := value * down - below * unit
  let distanceAbove := (below + 1) * unit - value * down
  match inside below && 0 < below, inside (below + 1) with
  | true, true =>
    if distanceBelow < distanceAbove then some below
    else if distanceAbove < distanceBelow then some (below + 1)
    else if below % 2 = 0 then some below else some (below + 1)
  | true, false => some below
  | false, true => some (below + 1)
  | false, false => none

/-- Try `count` grids, each ten times finer than the one before. -/
def searchGrids (x : Binary64) : Nat → Int → ShortDecimal
  | 0, power => ⟨0, power⟩
  | count + 1, power =>
    match x.onGrid? power with
    | some digits => ⟨digits, power⟩
    | none => searchGrids x count (power - 1)

/-- The power of ten just above a positive magnitude, or one more. -/
def topPower (x : Binary64) : Int :=
  let bits : Int := x.mantissa.log2 + 1 + x.exponent
  -- 30103 / 100000 exceeds the decimal logarithm of two
  if 0 ≤ bits then (bits * 30103).tdiv 100000 + 1 else (bits * 30102).tdiv 100000 + 1

/-- The shortest decimal that reads back as the magnitude, the nearest one of that length. -/
def shortest (x : Binary64) : ShortDecimal :=
  if x.mantissa = 0 then ⟨0, 0⟩ else x.searchGrids 20 x.topPower

end Binary64

/-- The decisions of a decimal notation. -/
structure DecimalFormat where
  /-- The decimal point is never this many places or more left of the first digit. -/
  minPoint : Int
  /-- The decimal point is at most this many places right of the first digit. -/
  maxPoint : Int
  /-- The text between the mark of an exponent and the exponent, if that is not negative. -/
  exponentSign : String

namespace DecimalFormat

/-- Place the decimal point in or beside the digits, or write an exponent. -/
def render (format : DecimalFormat) (d : ShortDecimal) : String :=
  let digits := d.digits.repr.toList
  let point : Int := digits.length + d.exponent
  if d.digits = 0 then "0.0"
  else if 0 ≤ d.exponent ∧ point ≤ format.maxPoint then
    String.ofList (digits ++ List.replicate d.exponent.toNat '0') ++ ".0"
  else if 0 < point ∧ point ≤ format.maxPoint then
    String.ofList (digits.take point.toNat ++ '.' :: digits.drop point.toNat)
  else if format.minPoint < point ∧ point ≤ 0 then
    "0." ++ String.ofList (List.replicate (-point).toNat '0' ++ digits)
  else
    let exponent := point - 1
    let tail := if digits.length ≤ 1 then [] else '.' :: digits.drop 1
    String.ofList (digits.take 1 ++ tail) ++ "e" ++
      (if 0 ≤ exponent then format.exponentSign else "") ++ toString exponent

end DecimalFormat

end MixinIndex
