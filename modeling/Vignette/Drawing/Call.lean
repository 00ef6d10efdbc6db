import Vignette.Geometry.Point
import Vignette.Style.Paint

namespace Vignette.Drawing

/-! What is asked of a canvas, and the calls that each kind of shape makes. -/

inductive Call (α : Type) where
  | setStrokeWidth (width : Nat)
  | setBlending (enabled : Bool)
  | fillPolygon (vertices : List (Point α)) (color : Color)
  | strokePolygon (vertices : List (Point α)) (color : Color)
  | strokeLine (start finish : Point α) (color : Color)
  | fillEllipse (center : Point α) (radiusX radiusY : α) (color : Color)
  | strokeEllipse (center : Point α) (radiusX radiusY : α) (color : Color)
  | fillRectangle (corner opposite : Point α) (color : Color)
  | strokeRectangle (corner opposite : Point α) (color : Color)
  | text (position : Point α) (text : String) (color : Color)
deriving Repr

variable {α : Type}

open Style (Paint)

/-- The lines from each vertex to the next. -/
def lines (vertices : List (Point α)) (color : Color) : List (Call α) :=
  (vertices.zip (vertices.drop 1)).map fun (start, finish) => .strokeLine start finish color

/-- The calls that a stroke makes, unless it has no width. -/
def stroked (paint : Paint) (calls : List (Call α)) : List (Call α) :=
  if paint.strokeWidth = 0 then [] else calls

/-- The filling of a list of vertices, unless there are too few. -/
def filled (vertices : List (Point α)) (paint : Paint) : List (Call α) :=
  if 2 < vertices.length then [.fillPolygon vertices paint.fill] else []

def openShape (vertices : List (Point α)) (paint : Paint) : List (Call α) :=
  filled vertices paint ++ stroked paint (lines vertices paint.stroke)

/-- The calls of a closed sequence of vertices; too few of them are only joined by lines. -/
def closedShape (vertices : List (Point α)) (paint : Paint) : List (Call α) :=
  if 2 < vertices.length then
    filled vertices paint ++ stroked paint [.strokePolygon vertices paint.stroke]
  else stroked paint (lines vertices paint.stroke)

def line (start finish : Point α) (paint : Paint) : List (Call α) :=
  stroked paint [.strokeLine start finish paint.stroke]

variable [Scalar α]

/-- How far the edges of a stroke lie from the ellipse that is stroked. -/
def strokeOffset (strokeWidth : Nat) : α := Scalar.ofInt strokeWidth / Scalar.ofInt 4

/-- The calls of an ellipse. Its stroke is a larger ellipse in the color of the stroke, on which a
smaller one is laid again in the color of the filling, without blending. -/
def ellipse (center : Point α) (radiusX radiusY : α) (paint : Paint) : List (Call α) :=
  let offset : α := strokeOffset paint.strokeWidth
  .fillEllipse center radiusX radiusY paint.fill ::
    stroked paint [
      .fillEllipse center (radiusX + offset) (radiusY + offset) paint.stroke,
      .setBlending false,
      .fillEllipse center (radiusX - offset) (radiusY - offset) paint.fill,
      .setBlending true]

def rectangle (corner : Point α) (width height : α) (paint : Paint) : List (Call α) :=
  let opposite : Point α := ⟨corner.x + width, corner.y + height⟩
  .fillRectangle corner opposite paint.fill ::
    stroked paint [.strokeRectangle corner opposite paint.stroke]

end Vignette.Drawing
