import Vignette.Numeral
import Vignette.Text.Part
import Vignette.Text.Lowercase

namespace Vignette

/-! Lengths: numbers with a unit. Without a unit, or with one that is not known, a length counts
pixels. -/

structure Length where
  magnitude : Float
  unit : String

namespace Length

/-- What a text is read as that is no length. -/
def zero : Length := ⟨0, ""⟩

def isUnitChar (c : Char) : Bool := c.isAlpha || c == '%'

/-- Reads a length. Blanks may stand before, between and behind the number and the unit. -/
def ofString (text : String) : Length :=
  match Numeral.scan? (Text.trim text.toList) with
  | none => zero
  | some (numeral, behind) =>
    let unit := behind.dropWhile Text.isBlank
    if unit.all isUnitChar then ⟨numeral.toFloat, String.ofList unit⟩ else zero

def pixelsPerInch : Float := 96

def pixelsPerCentimetre : Float := pixelsPerInch / 2.54

def pixelsPerPoint : Float := pixelsPerInch / 72

def pixelsPer (unit : String) : Float :=
  match unit with
  | "px" => 1
  | "pt" => pixelsPerPoint
  | "pc" => pixelsPerPoint * 12
  | "in" => pixelsPerInch
  | "cm" => pixelsPerCentimetre
  | "mm" => pixelsPerCentimetre / 10
  | _ => 1

/-- A length in pixels. Units are known in any case. -/
def pixels (length : Length) : Float := length.magnitude * pixelsPer (Text.lower length.unit)

/-- A length in pixels, or another number if it is beyond all numbers. -/
def pixelsOr (length : Length) (other : Float) : Float :=
  if length.pixels.isFinite then length.pixels else other

end Length

end Vignette
