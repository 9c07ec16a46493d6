/-!
# Binary floating point numbers of 64 bits

A `Binary64` is its bits: a sign, eleven bits of exponent, fifty-two of fraction. All that
is asked of it here is decided on those fields in natural numbers: whether it is finite,
when two of them compare equal (`same`, for which a NaN differs from everything and the two
zeros agree), and which one a 32-bit number widens to (`ofBinary32`).
-/

namespace HybridQuery

/-- Powers of two. -/
def twoPow (n : Nat) : Nat :=
  Nat.pow 2 n

/-- A binary floating point number, told by its bits. -/
structure Binary64 where
  bits : UInt64
  deriving DecidableEq, Repr, Inhabited

namespace Binary64

/-- The sign bit is set. -/
def negative (x : Binary64) : Bool :=
  decide (twoPow 63 ≤ x.bits.toNat)

/-- The eleven bits of exponent. -/
def exponentField (x : Binary64) : Nat :=
  x.bits.toNat / twoPow 52 % twoPow 11

/-- The fifty-two bits of fraction. -/
def fractionField (x : Binary64) : Nat :=
  x.bits.toNat % twoPow 52

/-- The number with these fields. -/
def ofFields (negative : Bool) (exponent fraction : Nat) : Binary64 :=
  ⟨UInt64.ofNat ((if negative then twoPow 63 else 0) + exponent * twoPow 52 + fraction)⟩

/-- Neither infinite nor a NaN. -/
def isFinite (x : Binary64) : Bool :=
  decide (x.exponentField ≠ 2047)

def isNaN (x : Binary64) : Bool :=
  decide (x.exponentField = 2047) && decide (x.fractionField ≠ 0)

/-- Zero of either sign. -/
def isZero (x : Binary64) : Bool :=
  decide (x.exponentField = 0) && decide (x.fractionField = 0)

/-- Equality of numbers: a NaN differs from everything, itself included, and the two zeros
are equal. -/
def same (x y : Binary64) : Bool :=
  !x.isNaN && !y.isNaN && (decide (x = y) || (x.isZero && y.isZero))

/-- The number that 32 bits stand for, which always exists. A number below the normal range
of the narrow format is normal in the wide one, so its leading one is moved out of the
fraction; a NaN stays one, made quiet. -/
def ofBinary32 (bits : UInt32) : Binary64 :=
  let negative := decide (twoPow 31 ≤ bits.toNat)
  let exponent := bits.toNat / twoPow 23 % twoPow 8
  let fraction := bits.toNat % twoPow 23
  if exponent = 255 then
    let payload := if fraction = 0 then 0 else fraction * twoPow 29 % twoPow 51 + twoPow 51
    ofFields negative 2047 payload
  else if exponent ≠ 0 then
    ofFields negative (exponent + 896) (fraction * twoPow 29)
  else if fraction = 0 then
    ofFields negative 0 0
  else
    let top := fraction.log2
    ofFields negative (top + 874) ((fraction - twoPow top) * twoPow (52 - top))

end Binary64

end HybridQuery
