import Vignette.Canvas.Pixel
import Vignette.Canvas.Shape
import Vignette.Drawing.Call

namespace Vignette

/-! The canvas: a picture with the settings of the tools that paint onto it. -/

structure Canvas where
  picture : Picture
  /-- Whether lines fade out at their edges; such lines are one pixel wide. -/
  smooth : Bool
  /-- Whether colors are laid over the old ones, rather than put in their place. -/
  blending : Bool
  strokeWidth : Nat

/-- The pixels that painting looks at, by the least and the greatest coordinates. -/
structure Window where
  left : Int
  top : Int
  right : Int
  bottom : Int
deriving DecidableEq, Repr

def Window.contains (window : Window) (x y : Nat) : Bool :=
  decide (window.left ≤ x) && decide (x ≤ window.right) && decide (window.top ≤ y) &&
    decide (y ≤ window.bottom)

/-- A typeface: the shape of a text at a position, unless nothing of it is visible. -/
abbrev Typeface (α : Type) := Point α → String → Option (Shape α)

def Typeface.invisible {α : Type} : Typeface α := fun _ _ => none

namespace Canvas

/-- A canvas that is all background. Its lines are one pixel wide. -/
def blank (width height : Nat) (background : Pixel) (smooth : Bool) : Canvas where
  picture := .blank width height background
  smooth
  blending := true
  strokeWidth := 1

/-- The bound on the number of bytes of a picture, and on its width and its height. -/
def sizeBound : Int := 9223372036854775808

/-- Whether a picture is so large that its bytes cannot be counted. Pictures without pixels count as
one pixel wide or high. -/
def isTooLarge (width height : Int) : Bool :=
  decide (sizeBound ≤ width) || decide (sizeBound ≤ height) ||
    decide (sizeBound ≤ 4 * max 1 width * max 1 height)

/-- A canvas whose size is given by whole numbers, neither of which may be negative. -/
def ofSize (width height : Int) (background : Pixel) (smooth : Bool) : Except Fault Canvas :=
  if width < 0 ∨ height < 0 then .error .negativeSize
  else if isTooLarge width height then .error .tooManyPixels
  else .ok (blank width.toNat height.toNat background smooth)

variable {α : Type} [Scalar α]

open Scalar

/-- The pixels of a canvas within the bounds of a shape, if the bounds are finite and hold any. -/
@[specialize] def window? (canvas : Canvas) (shape : Shape α) : Option Window :=
  if isFinite shape.minX && isFinite shape.minY && isFinite shape.maxX && isFinite shape.maxY then
    let left := max 0 (floor shape.minX)
    let top := max 0 (floor shape.minY)
    let right := min ((canvas.picture.width : Int) - 1) (ceil shape.maxX)
    let bottom := min ((canvas.picture.height : Int) - 1) (ceil shape.maxY)
    if right < left ∨ bottom < top then none else some ⟨left, top, right, bottom⟩
  else none

/-- What painting does to a pixel that is covered to some part. -/
@[specialize] def paintPixel (blending : Bool) (color : Color) (coverage : α) (pixel : Pixel) :
    Pixel :=
  if blending then Pixel.blend color coverage pixel else Pixel.overwrite color coverage pixel

/-- Paints a shape: every pixel within its bounds, also where it is not covered. -/
@[specialize] def paint (canvas : Canvas) (shape : Shape α) (color : Color) : Canvas :=
  match canvas.window? shape with
  | none => canvas
  | some window =>
    { canvas with
      picture := canvas.picture.mapPixels fun x y pixel =>
        if window.contains x y then
          paintPixel canvas.blending color (shape.coverage ⟨ofInt x, ofInt y⟩) pixel
        else pixel }

@[specialize] def paintAll (canvas : Canvas) (shapes : List (Shape α)) (color : Color) : Canvas :=
  shapes.foldl (fun painted shape => painted.paint shape color) canvas

@[specialize] def halfWidth (canvas : Canvas) : α :=
  ofInt (if canvas.smooth then 1 else max 1 canvas.strokeWidth) / ofInt 2

@[specialize] def line (canvas : Canvas) (start finish : Point α) : Shape α :=
  Shape.line canvas.smooth canvas.halfWidth start finish

@[specialize] def outline (canvas : Canvas) (vertices : List (Point α)) : List (Shape α) :=
  (Shape.edges vertices).map fun edge => canvas.line edge.1 edge.2

/-- The corners of a rectangle, in the order in which its edges join them. -/
def corners (corner opposite : Point α) : List (Point α) :=
  [corner, ⟨opposite.x, corner.y⟩, opposite, ⟨corner.x, opposite.y⟩]

open Drawing in
/-- The shapes that a call paints, and their color. -/
@[specialize] def painting? (typeface : Typeface α) (canvas : Canvas) :
    Call α → Option (List (Shape α) × Color)
  | .setStrokeWidth _ | .setBlending _ => none
  | .fillPolygon vertices color => some ((Shape.polygon? vertices).toList, color)
  | .strokePolygon vertices color => some (canvas.outline vertices, color)
  | .strokeLine start finish color => some ([canvas.line start finish], color)
  | .fillEllipse center radiusX radiusY color =>
    some ((Shape.ellipse? center radiusX radiusY).toList, color)
  | .strokeEllipse center radiusX radiusY color =>
    some ([Shape.ring canvas.halfWidth center radiusX radiusY], color)
  | .fillRectangle corner opposite color => some ([Shape.rectangle corner opposite], color)
  | .strokeRectangle corner opposite color => some (canvas.outline (corners corner opposite), color)
  | .text position text color => some ((typeface position text).toList, color)

open Drawing in
/-- Changes the tools as a call asks for. Calls that paint change none. -/
def adjust (canvas : Canvas) : Call α → Canvas
  | .setStrokeWidth width => { canvas with strokeWidth := width }
  | .setBlending enabled => { canvas with blending := enabled }
  | _ => canvas

open Drawing in
@[specialize] def perform (typeface : Typeface α) (canvas : Canvas) (call : Call α) : Canvas :=
  match canvas.painting? typeface call with
  | some (shapes, color) => canvas.paintAll shapes color
  | none => canvas.adjust call

open Drawing in
@[specialize] def performAll (typeface : Typeface α) (canvas : Canvas) (calls : List (Call α)) :
    Canvas :=
  calls.foldl (perform typeface) canvas

/-- Whether a color can be painted: where colors are put in place of pixels, it must be able to
stand in place of one, unless nothing is painted. -/
@[specialize] def accepts (canvas : Canvas) (shapes : List (Shape α)) (color : Color) : Bool :=
  canvas.blending || Pixel.holds color || shapes.all fun shape => (canvas.window? shape).isNone

open Drawing in
/-- Does what a call asks for, in any color. -/
@[specialize] def performChecked (typeface : Typeface α) (canvas : Canvas) (call : Call α) :
    Except Fault Canvas :=
  match canvas.painting? typeface call with
  | some (shapes, color) =>
    if canvas.accepts shapes color then .ok (canvas.paintAll shapes color) else .error .tooLarge
  | none => .ok (canvas.adjust call)

end Canvas

end Vignette
