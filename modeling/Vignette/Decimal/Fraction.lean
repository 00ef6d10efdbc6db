import Vignette.Decimal.BinaryNumber

namespace Vignette

/-! Floating point numbers nearest to fractions. A positive number is laid out as a scale and a
significand, one after the other, so that rounding up to the next power of two carries into the
scale by itself. -/

def reachesPower (numerator denominator : Nat) (power : Int) : Bool :=
  decide (denominator * Nat.pow 2 power.toNat ≤ numerator * Nat.pow 2 (-power).toNat)

/-- The greatest power of two that is not above a positive fraction. -/
def binaryPower (numerator denominator : Nat) : Int :=
  let guess := (numerator.log2 : Int) - denominator.log2
  if reachesPower numerator denominator guess then guess else guess - 1

/-- The layout of the number nearest to a positive fraction, without its sign. A fraction beyond the
greatest number gives infinity. -/
def nearestBits (numerator denominator : Nat) : Nat :=
  let exponent := max (binaryPower numerator denominator - 52) (-1074)
  let significand :=
    nearestQuotient (numerator * Nat.pow 2 (-exponent).toNat : Nat)
      (denominator * Nat.pow 2 exponent.toNat)
  min ((exponent + 1074).toNat * Nat.pow 2 52 + significand.toNat) (2047 * Nat.pow 2 52)

/-- The floating point number nearest to a fraction; of two equally near, the one with the even
significand. The sign is kept for zero too. -/
def floatOfFraction (negative : Bool) (numerator denominator : Nat) : Float :=
  let magnitude := if numerator = 0 then 0 else nearestBits numerator denominator
  Float.ofBits (UInt64.ofNat (if negative then Nat.pow 2 63 + magnitude else magnitude))

def floatOfInt (n : Int) : Float :=
  if n.natAbs < Nat.pow 2 53 then Float.ofInt n else floatOfFraction (decide (n < 0)) n.natAbs 1

end Vignette
