import Vignette.Fault
import Vignette.Numeral
import Vignette.Text.Part

namespace Vignette

/-! Numbers in free form, as colors are written in: blanks may stand around them, and a low line
between any two of their digits. -/

/-- Takes low lines out of a numeral. Each must stand between two digits. -/
def dropGroupMarks (previousIsDigit : Bool) : List Char → Option (List Char)
  | [] => some []
  | c :: rest =>
    if c = '_' then
      if previousIsDigit && (rest.head?.map Text.isDigit).getD false then dropGroupMarks false rest
      else none
    else (dropGroupMarks (Text.isDigit c) rest).map (c :: ·)

/-- Whether a character may stand around a number: any blank but the four that separate records. -/
def isPadding (c : Char) : Bool :=
  Text.isBlank c && !(decide (0x1C ≤ c.toNat) && decide (c.toNat ≤ 0x1F))

def withoutPadding (cs : List Char) : List Char :=
  ((cs.dropWhile isPadding).reverse.dropWhile isPadding).reverse

/-- Reads a number in free form. A word may stand for an infinite or an undefined one. The text is
in lower case. -/
def freeNumber? (text : List Char) : Option Float :=
  let body := withoutPadding text
  let (negative, unsigned) := takeSign body
  if unsigned = "inf".toList ∨ unsigned = "infinity".toList then
    some (floatOfFraction negative (Nat.pow 2 1024) 1)
  else if unsigned = "nan".toList then some (0 / 0)
  else ((dropGroupMarks false body).bind Numeral.read?).map Numeral.toFloat

/-- The greatest number of digits of a whole number that is read. -/
def digitLimit : Nat := 4300

/-- The whole number of a row of digits with a sign, unless the row is too long. -/
def wholeOfDigits (negative : Bool) (digits : List Char) : Except Fault Int :=
  if digitLimit < digits.length then .error (.tooManyDigits digits.length)
  else .ok (if negative then -(digitsValue digits : Int) else digitsValue digits)

/-- Reads a whole number in free form, with any blanks around it. -/
def freeWhole? (text : List Char) : Option Int :=
  let (negative, unsigned) := takeSign (Text.trim text)
  (dropGroupMarks false unsigned).bind fun digits =>
    if digits.isEmpty || !digits.all Text.isDigit then none
    else (wholeOfDigits negative digits).toOption

/-- The whole number at the front of a text, if there is one. -/
def leadingWhole? (text : List Char) : Except Fault (Option Int) :=
  let (negative, unsigned) := takeSign text
  let digits := unsigned.takeWhile Text.isDigit
  if digits.isEmpty then .ok none else (wholeOfDigits negative digits).map some

end Vignette
