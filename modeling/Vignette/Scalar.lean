import Vignette.Decimal.Fraction
import Vignette.Fault
import Vignette.Hypotenuse

namespace Vignette

/-! The arithmetic that curves, arcs and pixels are made of.

Everything geometric is written over an arbitrary type of scalars. The program runs on floating
point numbers; statements about exact geometry take another instance. Comparisons answer with a
Boolean, because an undefined number is neither less than, nor equal to, nor greater than any other,
itself included. -/

/-- Numbers that coordinates are made of. -/
class Scalar (α : Type) extends Add α, Sub α, Mul α, Div α, Neg α where
  ofInt : Int → α
  lt : α → α → Bool
  le : α → α → Bool
  eq : α → α → Bool
  isFinite : α → Bool
  abs : α → α
  /-- The greatest whole number not above a finite scalar. -/
  floor : α → Int
  ceil : α → Int
  /-- The whole number nearest to a finite scalar; a half goes to the even one. -/
  nearest : α → Int
  cube : α → α
  sqrt : α → α
  /-- The length of the vector with the given coordinates, for angles. -/
  hypot : α → α → α
  /-- The length of the vector with the given coordinates, for distances. It differs by rounding
  alone. -/
  distance : α → α → α
  pi : α
  sin : α → α
  cos : α → α
  /-- The angle between zero and a straight one with the given cosine. -/
  acos : α → α

namespace Scalar

variable {α : Type} [Scalar α]

@[specialize] def ratio (numerator denominator : Int) : α := ofInt numerator / ofInt denominator

/-- The first of two scalars, unless the second is less. -/
@[specialize] def least (x y : α) : α := if lt y x then y else x

/-- The first of two scalars, unless the second is greater. -/
@[specialize] def greatest (x y : α) : α := if lt x y then y else x

/-- Whether a scalar is beyond all whole numbers. -/
def isInfinite (x : α) : Bool := !isFinite x && eq x x

def truncate (x : α) : Int := if lt x (ofInt 0) then ceil x else floor x

def wholePart (x : α) : Except Fault Int :=
  if isFinite x then .ok (truncate x)
  else if isInfinite x then .error .tooLarge
  else .error .undefined

def rounded (x : α) : Except Fault Int :=
  if isFinite x then .ok (nearest x)
  else if isInfinite x then .error .tooLarge
  else .error .undefined

/-- A quotient that insists on a divisor other than zero. -/
def quotient (x y : α) : Except Fault α :=
  if eq y (ofInt 0) then .error .divisionByZero else .ok (x / y)

@[specialize] def radians (degrees : α) : α := degrees * (pi / ofInt 180)

@[specialize] def degrees (radians : α) : α := radians * (ofInt 180 / pi)

end Scalar

instance : Scalar Float where
  ofInt := floatOfInt
  lt x y := decide (x < y)
  le x y := decide (x ≤ y)
  eq x y := x == y
  isFinite := Float.isFinite
  abs := Float.abs
  floor x := ((BinaryNumber.ofFloat? x).map BinaryNumber.floor).getD 0
  ceil x := ((BinaryNumber.ofFloat? x).map BinaryNumber.ceil).getD 0
  nearest x := ((BinaryNumber.ofFloat? x).map BinaryNumber.nearest).getD 0
  cube x := x.pow 3
  sqrt := Float.sqrt
  hypot := Hypotenuse.summed
  distance := Hypotenuse.corrected
  pi := 3.141592653589793
  sin := Float.sin
  cos := Float.cos
  acos := Float.acos

end Vignette
