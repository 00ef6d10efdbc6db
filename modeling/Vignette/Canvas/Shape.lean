import Vignette.Geometry.Point

namespace Vignette

/-! Shapes: how much of each pixel they cover, and bounds outside of which they cover none. A pixel
stands for the point at its coordinates. -/

structure Shape (α : Type) where
  minX : α
  minY : α
  maxX : α
  maxY : α
  /-- How much of the pixel at a point is covered, from zero to one. -/
  coverage : Point α → α

namespace Shape

variable {α : Type} [Scalar α]

open Scalar

@[specialize] def indicator (inside : Bool) : α := if inside then ofInt 1 else ofInt 0

/-- The nearest scalar from zero to one; an undefined one stays undefined. -/
@[specialize] def clampUnit (x : α) : α :=
  if lt x (ofInt 0) then ofInt 0 else if lt (ofInt 1) x then ofInt 1 else x

@[specialize] def square (x : α) : α := x * x

/-! ### Polygons -/

def edges (vertices : List (Point α)) : List (Point α × Point α) :=
  vertices.zip (vertices.drop 1 ++ vertices.take 1)

/-- Whether a ray to the right of a point crosses an edge. -/
@[specialize] def crosses (point start finish : Point α) : Bool :=
  !eq start.y finish.y && (lt point.y start.y != lt point.y finish.y) &&
    lt point.x ((finish.x - start.x) * (point.y - start.y) / (finish.y - start.y) + start.x)

/-- Whether a point lies inside of a polygon: a ray from it crosses an odd number of edges. -/
@[specialize] def insidePolygon (polygon : List (Point α × Point α)) (point : Point α) : Bool :=
  polygon.foldl (fun inside edge => inside != crosses point edge.1 edge.2) false

/-- A filled polygon. It must have three vertices, all of them finite. -/
@[specialize] def polygon? (vertices : List (Point α)) : Option (Shape α) :=
  match vertices with
  | first :: _ :: _ :: _ =>
    if vertices.all Point.isFinite then
      let closed := edges vertices
      some {
        minX := vertices.foldl (fun most p => least most p.x) first.x
        minY := vertices.foldl (fun most p => least most p.y) first.y
        maxX := vertices.foldl (fun most p => greatest most p.x) first.x
        maxY := vertices.foldl (fun most p => greatest most p.y) first.y
        coverage := fun point => indicator (insidePolygon closed point) }
    else none
  | _ => none

/-! ### Lines -/

/-- The distance of a point from a line between two ends. -/
@[specialize] def distanceToLine (start finish point : Point α) : α :=
  let dx := finish.x - start.x
  let dy := finish.y - start.y
  let lengthSquare := dx * dx + dy * dy
  let along :=
    if eq lengthSquare (ofInt 0) then ofInt 0
    else clampUnit (((point.x - start.x) * dx + (point.y - start.y) * dy) / lengthSquare)
  distance (point.x - (start.x + along * dx)) (point.y - (start.y + along * dy))

/-- A line with half its width on each side. A smooth one fades out over a pixel at its edge. -/
@[specialize] def line (smooth : Bool) (half : α) (start finish : Point α) : Shape α where
  minX := least start.x finish.x - half - ofInt 1
  minY := least start.y finish.y - half - ofInt 1
  maxX := greatest start.x finish.x + half + ofInt 1
  maxY := greatest start.y finish.y + half + ofInt 1
  coverage := fun point =>
    let distance := distanceToLine start finish point
    if smooth then clampUnit (half + ratio 1 2 - distance) else indicator (le distance half)

/-! ### Ellipses -/

/-- The distance of a point from the center of an ellipse, squared, and measured in its radii. -/
@[specialize] def ellipseDistance (center : Point α) (radiusX radiusY : α) (point : Point α) : α :=
  square ((point.x - center.x) / radiusX) + square ((point.y - center.y) / radiusY)

@[specialize] def insideEllipse (center : Point α) (radiusX radiusY : α) (point : Point α) : Bool :=
  le (ellipseDistance center radiusX radiusY point) (ofInt 1)

/-- A filled ellipse, unless a radius is zero. The signs of the radii do not matter. -/
@[specialize] def ellipse? (center : Point α) (radiusX radiusY : α) : Option (Shape α) :=
  let rx := abs radiusX
  let ry := abs radiusY
  if eq rx (ofInt 0) || eq ry (ofInt 0) then none
  else
    some {
      minX := center.x - rx
      minY := center.y - ry
      maxX := center.x + rx
      maxY := center.y + ry
      coverage := fun point => indicator (insideEllipse center rx ry point) }

/-- The outline of an ellipse, with half its width on each side. If that leaves nothing inside, it
is filled. -/
@[specialize] def ring (half : α) (center : Point α) (radiusX radiusY : α) : Shape α :=
  let rx := abs radiusX
  let ry := abs radiusY
  let hollow := lt (ofInt 0) (rx - half) && lt (ofInt 0) (ry - half)
  { minX := center.x - (rx + half)
    minY := center.y - (ry + half)
    maxX := center.x + (rx + half)
    maxY := center.y + (ry + half)
    coverage := fun point =>
      indicator (insideEllipse center (rx + half) (ry + half) point &&
        (!hollow || lt (ofInt 1) (ellipseDistance center (rx - half) (ry - half) point))) }

/-! ### Rectangles -/

@[specialize] def rectangle (corner opposite : Point α) : Shape α :=
  let minX := least corner.x opposite.x
  let minY := least corner.y opposite.y
  let maxX := greatest corner.x opposite.x
  let maxY := greatest corner.y opposite.y
  { minX, minY, maxX, maxY
    coverage := fun point =>
      indicator (le minX point.x && le point.x maxX && le minY point.y && le point.y maxY) }

end Shape

end Vignette
