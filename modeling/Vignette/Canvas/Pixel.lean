import Vignette.Color.Basic
import Vignette.Scalar

namespace Vignette

/-! Pixels, and what painting does to one: how much of it a shape covers decides how far it goes
from its old color to the new one. -/

structure Pixel where
  red : UInt8
  green : UInt8
  blue : UInt8
  alpha : UInt8
deriving DecidableEq, Repr, Inhabited

/-- The byte that a whole number leaves. -/
def lowByte (n : Int) : UInt8 := UInt8.ofNat (n % 256).toNat

namespace Pixel

variable {α : Type} [Scalar α]

open Scalar

@[specialize] def ofByte (byte : UInt8) : α := ofInt byte.toNat

/-- The byte nearest to a scalar; scalars outside of all bytes give the least or the greatest one,
and an undefined one gives zero. -/
@[specialize] def toByte (x : α) : UInt8 :=
  if le x (ofInt 0) then 0
  else if le (ofInt 255) x then 255
  else UInt8.ofNat (nearest x).toNat

def isByte (n : Int) : Bool := decide (0 ≤ n) && decide (n ≤ 255)

/-- A pixel of four whole numbers, which must be bytes. -/
def ofNumbers (red green blue alpha : Int) : Except Fault Pixel :=
  if [red, green, blue, alpha].all isByte then
    .ok ⟨lowByte red, lowByte green, lowByte blue, lowByte alpha⟩
  else .error .tooLarge

/-- Whether a color can stand in place of a pixel. -/
def holds (color : Color) : Bool :=
  [color.red, color.green, color.blue, color.opacity].all isByte

def ofColor (color : Color) : Pixel :=
  ⟨lowByte color.red, lowByte color.green, lowByte color.blue, lowByte color.opacity⟩

/-- The opacity of a color laid over an old opacity, both from zero to one. -/
@[specialize] def mixedOpacity (opacity old : α) : α := opacity + old * (ofInt 1 - opacity)

/-- A channel of a color laid over an old channel. Each counts as much as it contributes to the
mixed opacity; where there is none, the channel is divided by one. -/
@[specialize] def mixedChannel (opacity old : α) (new : Int) (channel : UInt8) : α :=
  let mixed := mixedOpacity opacity old
  let divisor := if lt (ofInt 0) mixed then mixed else ofInt 1
  (ofInt new * opacity + ofByte channel * old * (ofInt 1 - opacity)) / divisor

/-- Lays a color over a pixel that is covered to some part, from zero to one. -/
@[specialize] def blend (color : Color) (coverage : α) (pixel : Pixel) : Pixel :=
  let opacity := coverage * (ofInt color.opacity / ofInt 255)
  let old := ofByte pixel.alpha / ofInt 255
  { red := toByte (mixedChannel opacity old color.red pixel.red)
    green := toByte (mixedChannel opacity old color.green pixel.green)
    blue := toByte (mixedChannel opacity old color.blue pixel.blue)
    alpha := toByte (mixedOpacity opacity old * ofInt 255) }

/-- Puts a color in place of a pixel that is covered at all. -/
@[specialize] def overwrite (color : Color) (coverage : α) (pixel : Pixel) : Pixel :=
  if lt (ofInt 0) coverage then ofColor color else pixel

end Pixel

/-- A picture: rows of pixels, each as long as the picture is wide, as many as it is high. -/
structure Picture where
  width : Nat
  height : Nat
  rows : Array (Array Pixel)
deriving DecidableEq, Repr

namespace Picture

def blank (width height : Nat) (background : Pixel) : Picture :=
  ⟨width, height, Array.replicate height (Array.replicate width background)⟩

def pixel? (picture : Picture) (x y : Nat) : Option Pixel :=
  picture.rows[y]?.bind fun row => row[x]?

@[specialize] def mapPixels (picture : Picture) (f : Nat → Nat → Pixel → Pixel) : Picture :=
  { picture with rows := picture.rows.mapIdx fun y row => row.mapIdx fun x pixel => f x y pixel }

theorem pixel?_mapPixels (picture : Picture) (f : Nat → Nat → Pixel → Pixel) (x y : Nat) :
    (picture.mapPixels f).pixel? x y = (picture.pixel? x y).map (f x y) := by
  simp only [mapPixels, pixel?, Array.getElem?_mapIdx]
  cases picture.rows[y]? with
  | none => rfl
  | some row => simp

theorem pixel?_blank {width height x y : Nat} {background pixel : Pixel}
    (found : (blank width height background).pixel? x y = some pixel) : pixel = background := by
  simp only [blank, pixel?, Array.getElem?_replicate] at found
  split at found
  · simp only [Option.bind_some, Array.getElem?_replicate] at found
    split at found
    · exact (Option.some.inj found).symm
    · contradiction
  · contradiction

end Picture

end Vignette
