import Vignette.Geometry.Point

namespace Vignette

/-! Elliptical arcs. An arc is given by its end points; its centre and its angles are worked out
from them, and then one point is set for every degree of the sweep. -/

/-- An arc as paths give it: from one point to another, on an ellipse with the given radii and
rotation in degrees. Of the four arcs that fit, the flags choose one: `large` an arc of more than
half the ellipse, `sweep` one that runs in the direction of growing angles. -/
structure Arc (α : Type) where
  start : Point α
  radiusX : α
  radiusY : α
  rotation : α
  large : Bool
  sweep : Bool
  finish : Point α

/-- An arc given by its centre: it begins at an angle and sweeps over another, both in degrees. -/
structure CenteredArc (α : Type) where
  center : Point α
  radiusX : α
  radiusY : α
  startAngle : α
  sweepAngle : α

open Scalar

variable {α : Type} [Scalar α]

/-- The angle in degrees from one vector to another, negative if it runs against the growing angles,
and zero if a vector has no length. -/
def angleBetween (u v : Point α) : α :=
  let sign : α := if lt (u.x * v.y - u.y * v.x) (ofInt 0) then ofInt (-1) else ofInt 1
  let lengths := hypot u.x u.y * hypot v.x v.y
  if eq lengths (ofInt 0) then ofInt 0
  else
    let cosine := greatest (ofInt (-1)) (least (ofInt 1) ((u.x * v.x + u.y * v.y) / lengths))
    sign * degrees (acos cosine)

namespace Arc

/-- The cosine and the sine of the rotation. An infinite rotation has no direction. -/
def direction (arc : Arc α) : Except Fault (α × α) :=
  let angle := radians arc.rotation
  if isInfinite angle then .error .undefined else .ok (cos angle, sin angle)

/-- The sweep angle between two angles, made to run in the demanded direction. A sweep of nothing is
half a turn. -/
def directedSweep (sweep : Bool) (angle : α) : α :=
  if !sweep && lt (ofInt 0) angle then angle - ofInt 360
  else if sweep && lt angle (ofInt 0) then angle + ofInt 360
  else if eq angle (ofInt 0) then (if sweep then angle + ofInt 180 else angle - ofInt 180)
  else angle

/-- The arc by its centre. Radii too small to reach from end to end are enlarged until they do. The
divisors that can be zero are the squares of the radii and the weighted square of the distance
between the ends. -/
def centered (arc : Arc α) : Except Fault (CenteredArc α) := do
  let (c, s) ← arc.direction
  let width := arc.start.x - arc.finish.x
  let height := arc.start.y - arc.finish.y
  let x1 := (c * width + s * height) / ofInt 2
  let y1 := (c * height - s * width) / ofInt 2
  let givenX := abs arc.radiusX
  let givenY := abs arc.radiusY
  let reachX ← quotient (x1 * x1) (givenX * givenX)
  let reachY ← quotient (y1 * y1) (givenY * givenY)
  let reach := reachX + reachY
  let tooSmall := lt (ofInt 1) reach
  let rx := if tooSmall then givenX * sqrt reach else givenX
  let ry := if tooSmall then givenY * sqrt reach else givenY
  let spare := rx * rx * ry * ry - rx * rx * y1 * y1 - ry * ry * x1 * x1
  let distance := rx * rx * y1 * y1 + ry * ry * x1 * x1
  let offset ← quotient spare distance
  let magnitude := sqrt (abs offset)
  let factor := if arc.large == arc.sweep then -magnitude else magnitude
  let cx := factor * (rx * y1) / ry
  let cy := -factor * (ry * x1) / rx
  let center : Point α :=
    ⟨c * cx - s * cy + (arc.start.x + arc.finish.x) / ofInt 2,
      s * cx + c * cy + (arc.start.y + arc.finish.y) / ofInt 2⟩
  let u : Point α := ⟨(x1 - cx) / rx, (y1 - cy) / ry⟩
  let v : Point α := ⟨(-x1 - cx) / rx, (-y1 - cy) / ry⟩
  return {
    center
    radiusX := rx
    radiusY := ry
    startAngle := angleBetween ⟨ofInt 1, ofInt 0⟩ u
    sweepAngle := directedSweep arc.sweep (angleBetween u v) }

/-- The number of whole degrees in a sweep; one that falls short by rounding alone counts. -/
def degreeCount (sweepAngle : α) : Nat := (floor (abs sweepAngle + ratio 1 1000000000)).toNat

/-- The points of an arc, one for every degree from its start. -/
def points (arc : Arc α) : Except Fault (List (Point α)) := do
  let whole ← arc.centered
  let (c, s) ← arc.direction
  let step : α := if lt whole.sweepAngle (ofInt 0) then ofInt (-1) else ofInt 1
  let point (degree : Nat) : Point α :=
    let angle := radians (whole.startAngle + step * ofInt degree)
    ⟨c * whole.radiusX * cos angle - s * whole.radiusY * sin angle + whole.center.x,
      s * whole.radiusX * cos angle + c * whole.radiusY * sin angle + whole.center.y⟩
  return (List.range (degreeCount whole.sweepAngle + 1)).map point

/-- Whether a radius is zero, so that the arc is a straight line. -/
def isFlat (arc : Arc α) : Bool := eq arc.radiusX (ofInt 0) || eq arc.radiusY (ofInt 0)

/-- The points of an arc; a flat one, or one that ends where it starts, is only its two ends. -/
def flatten (arc : Arc α) : Except Fault (List (Point α)) :=
  if arc.isFlat || arc.start.equals arc.finish then .ok [arc.start, arc.finish] else arc.points

/-- The points of an arc whose ends were named by hand: an undefined coordinate that both ends share
counts as the same. -/
def flattenNamed (arc : Arc α) : Except Fault (List (Point α)) :=
  if arc.isFlat || arc.start.coincides arc.finish then .ok [arc.start, arc.finish] else arc.points

end Arc

end Vignette
