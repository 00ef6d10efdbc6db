import Vignette.Canvas.Pixel
import Vignette.FreeNumeral
import Vignette.Path.Mode

namespace Vignette

/-! How documents are turned into pictures. -/

structure Options where
  mode : Path.Mode
  smooth : Bool
  background : Pixel
deriving DecidableEq, Repr

/-- The choices where none is made: subpaths joined, sharp lines, and nothing behind the picture. -/
def Options.default : Options := ⟨.continuous, false, ⟨0, 0, 0, 0⟩⟩

def nearestByte (n : Int) : UInt8 := lowByte (max 0 (min 255 n))

/-- Reads a background: three channels and perhaps an opacity, with commas between them. Numbers
outside of all bytes count as the nearest one. -/
def background? (text : String) : Option Pixel :=
  match (Text.splitAtEach (· == ',') text.toList).mapM freeWhole? with
  | some [red, green, blue] =>
    some ⟨nearestByte red, nearestByte green, nearestByte blue, 255⟩
  | some [red, green, blue, alpha] =>
    some ⟨nearestByte red, nearestByte green, nearestByte blue, nearestByte alpha⟩
  | _ => none

end Vignette
