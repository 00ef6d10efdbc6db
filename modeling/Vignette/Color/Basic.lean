import Vignette.Decimal.Fraction

namespace Vignette

/-! Colors. A color has three channels from 0 to 255 and a transparency from 0, opaque, to 127, not
visible at all. Nothing clamps the numbers of a color that is given by its numbers. -/

structure Color where
  red : Int
  green : Int
  blue : Int
  transparency : Int
deriving DecidableEq, Repr

namespace Color

/-- The transparency of a color that is not visible. -/
def fullTransparency : Int := 127

/-- Opaque black, which stands for every color that is not understood. -/
def black : Color := ⟨0, 0, 0, 0⟩

def transparent : Color := ⟨0, 0, 0, fullTransparency⟩

/-- The color packed into a whole number: seven bits of transparency above three bytes. Other bits
do not count. -/
def ofHandle (handle : Int) : Color where
  red := handle / 65536 % 256
  green := handle / 256 % 256
  blue := handle % 256
  transparency := handle / 16777216 % 128

/-- The whole number with the bits of both, where a negative one has ones all the way up. -/
def joinBits : Int → Int → Int
  | .ofNat m, .ofNat n => .ofNat (m ||| n)
  | .ofNat m, .negSucc n => .negSucc (n ^^^ (n &&& m))
  | .negSucc m, .ofNat n => .negSucc (m ^^^ (m &&& n))
  | .negSucc m, .negSucc n => .negSucc (m &&& n)

def handle (c : Color) : Int :=
  joinBits (joinBits (joinBits (c.transparency * 16777216) (c.red * 65536)) (c.green * 256)) c.blue

def isTransparent (c : Color) : Bool := decide (fullTransparency ≤ c.transparency)

/-- How much of what lies below a color covers, from 0 to 255 for the colors that are in range. The
whole number nearest to a quotient is taken; where this is so great that it has no room for
halves, it is a floating point number first. -/
def opacity (c : Color) : Int :=
  let numerator := 255 * (fullTransparency - min c.transparency fullTransparency)
  if numerator < 1125899906842624 then nearestQuotient numerator 127
  else
    let quotient := floatOfFraction false numerator.toNat 127
    ((BinaryNumber.ofFloat? quotient).map BinaryNumber.nearest).getD 0

def InRange (c : Color) : Prop :=
  (0 ≤ c.red ∧ c.red ≤ 255) ∧ (0 ≤ c.green ∧ c.green ≤ 255) ∧ (0 ≤ c.blue ∧ c.blue ≤ 255) ∧
    (0 ≤ c.transparency ∧ c.transparency ≤ 127)

theorem inRange_ofHandle (n : Int) : (ofHandle n).InRange := by
  simp only [InRange, ofHandle]
  omega

end Color

end Vignette
