import Vignette.Decimal.BinaryNumber

namespace Vignette

/-! Shortest decimal text of floating point numbers: the fewest digits that still read back as the
same number, and of several such the nearest to it. -/

/-- The decimal number `digits * 10 ^ power`. -/
structure Decimal where
  digits : Nat
  power : Int
deriving DecidableEq, Repr

namespace Decimal

/-- The number of decimal digits of a whole number; zero has one. -/
def digitCount (n : Nat) : Nat := (Nat.toDigits 10 n).length

def leadingPower (numerator denominator : Nat) : Int :=
  if denominator ≤ numerator then (digitCount (numerator / denominator) : Int) - 1
  else -(digitCount ((denominator + numerator - 1) / numerator - 1) : Int)

/-- The decimals on both sides of a fraction, among those whose last digit counts `10 ^ power`. The
outcome is the nearer of those that pass the test, the even one if both are equally near. -/
def neighbour? (power : Int) (numerator denominator : Nat) (passes : Nat → Bool) : Option Nat :=
  let scaled := numerator * Nat.pow 10 (-power).toNat
  let unit := denominator * Nat.pow 10 power.toNat
  let below := scaled / unit
  match passes below, passes (below + 1) with
  | false, false => none
  | true, false => some below
  | false, true => some (below + 1)
  | true, true => some (nearestQuotient scaled unit).toNat

/-- The first number of digits, counted up from the given one, for which some decimal passes. -/
def firstHit (top : Int) (numerator denominator : Nat) (passes : Int → Nat → Bool) :
    Nat → Nat → Option Decimal
  | 0, _ => none
  | fuel + 1, count =>
    let power := top - count + 1
    match neighbour? power numerator denominator (passes power) with
    | some digits => some ⟨digits, power⟩
    | none => firstHit top numerator denominator passes fuel (count + 1)

/-- The shortest decimal that reads back as a positive floating point number. Numbers between the
midpoints to both neighbours read back, the midpoints too if the significand is even. The midpoint
below is nearer when the significand is a power of two, where the neighbours below stand closer.
Seventeen digits always suffice. -/
def shortest (value : BinaryNumber) : Decimal :=
  let closer := value.significand = Nat.pow 2 52 ∧ -1074 < value.exponent
  let unit := Nat.pow 2 (value.exponent - 2).toNat
  let numerator := 4 * value.significand * unit
  let denominator := Nat.pow 2 (2 - value.exponent).toNat
  let low := (4 * value.significand - if closer then 1 else 2) * unit
  let high := (4 * value.significand + 2) * unit
  let even := decide (value.significand % 2 = 0)
  let passes (power : Int) (digits : Nat) : Bool :=
    let scale := Nat.pow 10 (-power).toNat
    let point := digits * (denominator * Nat.pow 10 power.toNat)
    if even then decide (low * scale ≤ point) && decide (point ≤ high * scale)
    else decide (low * scale < point) && decide (point < high * scale)
  (firstHit (leadingPower numerator denominator) numerator denominator passes 17 1).getD
    ⟨value.significand, 0⟩

def dropZeros : Nat → Decimal → Decimal
  | 0, d => d
  | fuel + 1, d =>
    if d.digits ≠ 0 ∧ d.digits % 10 = 0 then dropZeros fuel ⟨d.digits / 10, d.power + 1⟩ else d

/-- Decimal text: positional with at least one decimal place for numbers from `10 ^ -4` up to
`10 ^ 16`, with an exponent of at least two digits for all others. -/
def text (d : Decimal) : String :=
  let short := dropZeros 400 d
  let digits := Nat.toDigits 10 short.digits
  let count := digits.length
  let top := short.power + count - 1
  let zeros (n : Nat) : List Char := List.replicate n '0'
  if -4 ≤ top ∧ top < 16 then
    if top < 0 then
      String.ofList ('0' :: '.' :: zeros (-top - 1).toNat ++ digits)
    else
      let whole := top.toNat + 1
      if count ≤ whole then String.ofList (digits ++ zeros (whole - count) ++ ['.', '0'])
      else String.ofList (digits.take whole ++ '.' :: digits.drop whole)
  else
    let places := digits.drop 1
    let fraction := if places.isEmpty then [] else '.' :: places
    let exponent := Nat.toDigits 10 top.natAbs
    let padded := if exponent.length < 2 then '0' :: exponent else exponent
    String.ofList (digits.take 1 ++ fraction ++ 'e' :: (if top < 0 then '-' else '+') :: padded)

end Decimal

def shortestText (x : Float) : String :=
  match BinaryNumber.ofFloat? x with
  | none => if x.isNaN then "nan" else if x < 0 then "-inf" else "inf"
  | some value =>
    (if value.negative then "-" else "") ++
      if value.significand = 0 then "0.0" else (Decimal.shortest value).text

end Vignette
