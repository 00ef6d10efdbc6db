import Vignette.Decimal.Fraction
import Vignette.Decimal.Shortest
import Vignette.Text.Digit

namespace Vignette

/-! Numerals: numbers as texts write them. A numeral has an optional sign, digits with an optional
point among, before or behind them, and an optional exponent. The letter of an exponent without
digits is not part of the numeral. Digits may be of any script. -/

/-- A numeral: the sign, all digits as one whole number, and the power of ten of the last digit. -/
structure Numeral where
  negative : Bool
  digits : Nat
  power : Int
deriving DecidableEq, Repr

def digitsValue (cs : List Char) : Nat :=
  cs.foldl (fun value c => 10 * value + (Text.digitValue? c).getD 0) 0

/-- The sign at the front of a text, as whether it is a minus, and the text behind it. -/
def takeSign : List Char → Bool × List Char
  | '-' :: rest => (true, rest)
  | '+' :: rest => (false, rest)
  | cs => (false, cs)

def takeExponent (cs : List Char) : Int × List Char :=
  match cs with
  | c :: rest =>
    if c = 'e' ∨ c = 'E' then
      let (negative, unsigned) := takeSign rest
      let digits := unsigned.takeWhile Text.isDigit
      if digits.isEmpty then (0, cs)
      else
        let magnitude : Int := digitsValue digits
        (if negative then -magnitude else magnitude, unsigned.dropWhile Text.isDigit)
    else (0, cs)
  | [] => (0, cs)

def takeFraction : List Char → List Char × List Char
  | '.' :: rest => (rest.takeWhile Text.isDigit, rest.dropWhile Text.isDigit)
  | cs => ([], cs)

namespace Numeral

/-- The longest numeral at the front of a text, and the text behind it. -/
def scan? (cs : List Char) : Option (Numeral × List Char) :=
  let (negative, unsigned) := takeSign cs
  let whole := unsigned.takeWhile Text.isDigit
  let (fraction, behind) := takeFraction (unsigned.dropWhile Text.isDigit)
  if whole.isEmpty && fraction.isEmpty then none
  else
    let (exponent, rest) := takeExponent behind
    some (⟨negative, digitsValue (whole ++ fraction), exponent - fraction.length⟩, rest)

def read? (cs : List Char) : Option Numeral :=
  match scan? cs with
  | some (numeral, []) => some numeral
  | _ => none

/-- The floating point number nearest to a numeral. Numerals far beyond the greatest number, or far
below the least, are told by the place of their first digit. -/
def toFloat (n : Numeral) : Float :=
  let places := n.power + Decimal.digitCount n.digits
  if n.digits = 0 ∨ places < -400 then floatOfFraction n.negative 0 1
  else if 400 < places then floatOfFraction n.negative (Nat.pow 2 1024) 1
  else floatOfFraction n.negative (n.digits * Nat.pow 10 n.power.toNat)
    (Nat.pow 10 (-n.power).toNat)

end Numeral

/-- Reads a number: a numeral whose value is finite. -/
def number? (token : String) : Option Float :=
  (Numeral.read? token.toList).bind fun numeral =>
    if numeral.toFloat.isFinite then some numeral.toFloat else none

def isNumber (token : String) : Bool := (number? token).isSome

end Vignette
