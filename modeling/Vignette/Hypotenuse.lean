import Vignette.Decimal.Fraction

namespace Vignette.Hypotenuse

/-! The length of a vector of floating point numbers, from its coordinates. There are two ways to
it, which differ in the last digit at most: one carries along what the sum of the squares loses by
rounding, and the other one corrects the root of the rounded sum. -/

def infinity : Float := 1 / 0

def power (exponent : Int) : Float :=
  floatOfFraction false (Nat.pow 2 exponent.toNat) (Nat.pow 2 (-exponent).toNat)

/-- The exponent of the least power of two above a positive number. -/
def exponentAbove (x : Float) : Int :=
  ((BinaryNumber.ofFloat? x).map fun d => (d.significand.log2 : Int) + 1 + d.exponent).getD 0

/-! ### Carrying the loss -/

/-- A number as the sum of two with half as many digits, whose products are exact. -/
def halves (x : Float) : Float × Float :=
  let raised := x * 134217729
  let high := raised - (raised - x)
  (high, x - high)

/-- What is lost by rounding when a term is added to a greater total. -/
def loss (total term : Float) : Float := total - (total + term) + term

/-- A sum of squares, on top of a one that keeps the total above its terms, and what it has lost at
the products of high halves, of a high with a low one, and of low ones. -/
structure SquareSum where
  total : Float
  highLoss : Float
  mixedLoss : Float
  lowLoss : Float

namespace SquareSum

def zero : SquareSum := ⟨1, 0, 0, 0⟩

/-- Adds a square. The square of its low half is too small for the total. -/
def plus (sum : SquareSum) (x : Float) : SquareSum :=
  let (high, low) := halves x
  let first := high * high
  let second := 2 * high * low
  let total := sum.total + first
  ⟨total + second, sum.highLoss + loss sum.total first, sum.mixedLoss + loss total second,
    sum.lowLoss + low * low⟩

/-- Takes away a square, which leaves about nothing. -/
def minus (sum : SquareSum) (x : Float) : SquareSum :=
  let (high, low) := halves x
  let first := -high * high
  let second := -2 * high * low
  let third := -low * low
  let total := sum.total + first
  ⟨total + second + third, sum.highLoss + loss sum.total first, sum.mixedLoss + loss total second,
    sum.lowLoss + loss (total + second) third⟩

def value (sum : SquareSum) : Float := sum.total - 1 + (sum.highLoss + sum.mixedLoss + sum.lowLoss)

/-- The root of a sum: a first guess and what its square leaves. -/
def root (sum : SquareSum) : Float :=
  let guess := sum.value.sqrt
  guess + (sum.minus guess).value / (2 * guess)

end SquareSum

/-- The length of a vector, with the loss carried along. The coordinates are first scaled by a power
of two, or else, if the greater one is as small as numbers can be, by that one. -/
def summed (x y : Float) : Float :=
  let a := x.abs
  let b := y.abs
  let greatest := if a < b then b else a
  if a.isInf || b.isInf then infinity
  else if a.isNaN || b.isNaN then a + b
  else if greatest == 0 then greatest
  else
    let exponent := exponentAbove greatest
    if -1023 ≤ exponent then
      let scale := power (-exponent)
      ((SquareSum.zero.plus (a * scale)).plus (b * scale)).root / scale
    else
      let first := a / greatest * (a / greatest)
      let second := b / greatest * (b / greatest)
      let total := 1 + first
      greatest * (total + second - 1 + (loss 1 first + loss total second)).sqrt

/-! ### Correcting the root -/

/-- The root of the sum of two squares, the first of which is not the smaller one. -/
def correctedRoot (a b : Float) : Float :=
  let root := (a * a + b * b).sqrt
  let excess :=
    if root ≤ 2 * b then
      let delta := root - b
      a * (2 * delta - a) + (delta - 2 * (a - b)) * delta
    else
      let delta := root - a
      2 * delta * (a - 2 * b) + ((4 * delta - b) * b + delta * delta)
  root - excess / (2 * root)

/-- The length of a vector, with a corrected root. The coordinates are first scaled where their
squares would overflow or vanish. One far below the other counts for little. -/
def corrected (x y : Float) : Float :=
  let a := if x.abs < y.abs then y.abs else x.abs
  let b := if x.abs < y.abs then x.abs else y.abs
  if x.isInf || y.isInf then infinity
  else if x.isNaN || y.isNaN then x + y
  else if power 511 < a then
    if b ≤ a * power (-54) then a + b
    else correctedRoot (a * power (-600)) (b * power (-600)) / power (-600)
  else if b < power (-459) then
    if b / power (-54) ≤ a then a + b
    else correctedRoot (a / power (-600)) (b / power (-600)) * power (-600)
  else if b ≤ a * power (-54) then a + b
  else correctedRoot a b

end Vignette.Hypotenuse
