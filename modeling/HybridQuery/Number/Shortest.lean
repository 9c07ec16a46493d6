import HybridQuery.Number.Binary64

/-!
# The shortest decimal of a binary number

A finite `Binary64` is written as the shortest decimal that reads back as itself. The reals
that round to a positive number form an interval (`RoundingInterval`), closed exactly when
the number's significand is even. The grids of multiples of `10 ^ 309`, `10 ^ 308`, …,
`10 ^ -324` are searched from coarse to fine, and the first grid with a point in the
interval gives the digits. Of a grid only the two neighbours of the number can be the
nearest point, so only those are tried; of two hits the nearer wins, and the upper one if
both are equally near. All of it is exact arithmetic on natural numbers.

`Binary64.text` writes the digits in positional notation, whatever the magnitude: no
exponent, no fraction for a whole number, a sign in front of a negative zero too.
-/

namespace HybridQuery

/-- Powers of ten. -/
def tenPow (n : Nat) : Nat :=
  Nat.pow 10 n

/-- The reals that round to a positive number, as multiples of `2 ^ scale`. -/
structure RoundingInterval where
  low : Nat
  value : Nat
  high : Nat
  scale : Int
  /-- The two ends round to the number as well. -/
  closed : Bool

/-- A decimal `digits · 10 ^ exponent`. -/
structure Decimal where
  digits : Nat
  exponent : Int
  deriving DecidableEq, Repr

namespace Binary64

/-- The significand `m` of a finite number `m · 2 ^ q`. -/
def significand (x : Binary64) : Nat :=
  if x.exponentField = 0 then x.fractionField else twoPow 52 + x.fractionField

/-- The power `q` of a finite number `m · 2 ^ q`. -/
def power (x : Binary64) : Int :=
  if x.exponentField = 0 then -1074 else (x.exponentField : Int) - 1075

/-- Half way to either neighbour. Below a power of two the neighbours stand twice as close. -/
def interval (x : Binary64) : RoundingInterval :=
  let m := x.significand
  let closed := decide (m % 2 = 0)
  if x.fractionField = 0 ∧ 1 < x.exponentField then
    ⟨4 * m - 1, 4 * m, 4 * m + 2, x.power - 2, closed⟩
  else
    ⟨2 * m - 1, 2 * m, 2 * m + 1, x.power - 1, closed⟩

end Binary64

namespace RoundingInterval

/-- `x · 2 ^ scale` counted in units of `10 ^ j`, times `unit j`. -/
def scaled (r : RoundingInterval) (j : Int) (x : Nat) : Nat :=
  x * twoPow r.scale.toNat * tenPow (-j).toNat

/-- The factor that makes `scaled` whole. -/
def unit (r : RoundingInterval) (j : Int) : Nat :=
  tenPow j.toNat * twoPow (-r.scale).toNat

/-- `c · 10 ^ j` lies in the interval. -/
def holds (r : RoundingInterval) (j : Int) (c : Nat) : Bool :=
  let point := c * r.unit j
  if r.closed then
    decide (r.scaled j r.low ≤ point) && decide (point ≤ r.scaled j r.high)
  else
    decide (r.scaled j r.low < point) && decide (point < r.scaled j r.high)

/-- The point of the grid of `10 ^ j` in the interval that is nearest to the value. -/
def nearest? (r : RoundingInterval) (j : Int) : Option Nat :=
  let value := r.scaled j r.value
  let below := value / r.unit j
  let above := below + 1
  match r.holds j below, r.holds j above with
  | true, true =>
    if above * r.unit j - value ≤ value - below * r.unit j then some above else some below
  | true, false => some below
  | false, true => some above
  | false, false => none

/-- The first hit on the `n` grids that end with the one of `10 ^ -324`. -/
def coarsest (r : RoundingInterval) : Nat → Decimal
  | 0 => ⟨0, 0⟩
  | n + 1 =>
    let j := (n : Int) - 324
    match r.nearest? j with
    | some c => ⟨c, j⟩
    | none => r.coarsest n

end RoundingInterval

/-- The shortest decimal that reads back as the positive finite number `x`. -/
def Binary64.shortest (x : Binary64) : Decimal :=
  x.interval.coarsest 634

/-! ## Positional notation -/

/-- The decimal digits of a natural number. -/
def digitsOf (n : Nat) : List Char :=
  Nat.toDigits 10 n

/-- The decimal text of a natural number. -/
def naturalText (n : Nat) : String :=
  String.ofList (digitsOf n)

/-- The decimal text of an integer. -/
def integerText (n : Int) : String :=
  String.ofList (if n < 0 then '-' :: digitsOf n.natAbs else digitsOf n.natAbs)

/-- The decimal in positional notation. -/
def Decimal.positional (d : Decimal) : List Char :=
  let digits := digitsOf d.digits
  if 0 ≤ d.exponent then
    digits ++ List.replicate d.exponent.toNat '0'
  else
    let places := (-d.exponent).toNat
    let padded := List.replicate (places + 1 - digits.length) '0' ++ digits
    let whole := padded.length - places
    padded.take whole ++ '.' :: padded.drop whole

/-- The text of a number. -/
def Binary64.text (x : Binary64) : String :=
  if x.isNaN then "NaN"
  else
    let magnitude :=
      if !x.isFinite then ['i', 'n', 'f']
      else if x.isZero then ['0']
      else x.shortest.positional
    String.ofList (if x.negative then '-' :: magnitude else magnitude)

end HybridQuery
