import Vignette.Geometry.Arc

namespace Vignette

/-! The way from the ends of an arc to its centre, step by step. It stops where the square of a
radius vanishes although the radius does not, or where so does the weighted distance between the
ends. -/

variable {α : Type} [Scalar α]

open Scalar

namespace Arc

/-- Half the way from the end of an arc to its start, in the directions of the radii. -/
def halfway (arc : Arc α) (direction : α × α) : Point α :=
  let width := arc.start.x - arc.finish.x
  let height := arc.start.y - arc.finish.y
  ⟨(direction.1 * width + direction.2 * height) / ofInt 2,
    (direction.1 * height - direction.2 * width) / ofInt 2⟩

def squareX (arc : Arc α) : α := abs arc.radiusX * abs arc.radiusX

def squareY (arc : Arc α) : α := abs arc.radiusY * abs arc.radiusY

/-- How often the radii would have to be laid out to reach halfway, squared. -/
def reach (arc : Arc α) (direction : α × α) : α :=
  let half := arc.halfway direction
  half.x * half.x / arc.squareX + half.y * half.y / arc.squareY

def enlarged (arc : Arc α) (direction : α × α) (radius : α) : α :=
  if lt (ofInt 1) (arc.reach direction) then abs radius * sqrt (arc.reach direction) else abs radius

/-- The square of half the distance between the ends, each part with the square of the other
radius. -/
def weightedDistance (arc : Arc α) (direction : α × α) : α :=
  let half := arc.halfway direction
  let rx := arc.enlarged direction arc.radiusX
  let ry := arc.enlarged direction arc.radiusY
  rx * rx * half.y * half.y + ry * ry * half.x * half.x

def Indivisible (arc : Arc α) (direction : α × α) : Prop :=
  eq arc.squareX (ofInt 0) = true ∨ eq arc.squareY (ofInt 0) = true ∨
    eq (arc.weightedDistance direction) (ofInt 0) = true

/-- The square of how far the centre is from the middle between the ends, measured by half the
distance. -/
def offset (arc : Arc α) (direction : α × α) : α :=
  let half := arc.halfway direction
  let rx := arc.enlarged direction arc.radiusX
  let ry := arc.enlarged direction arc.radiusY
  (rx * rx * ry * ry - rx * rx * half.y * half.y - ry * ry * half.x * half.x) /
    arc.weightedDistance direction

def factor (arc : Arc α) (direction : α × α) : α :=
  let magnitude := sqrt (abs (arc.offset direction))
  if arc.large == arc.sweep then -magnitude else magnitude

/-- The way from the middle between the ends to the centre, in the directions of the radii. -/
def aside (arc : Arc α) (direction : α × α) : Point α :=
  let half := arc.halfway direction
  let rx := arc.enlarged direction arc.radiusX
  let ry := arc.enlarged direction arc.radiusY
  ⟨arc.factor direction * (rx * half.y) / ry, -arc.factor direction * (ry * half.x) / rx⟩

def middle (arc : Arc α) (direction : α × α) : Point α :=
  let aside := arc.aside direction
  ⟨direction.1 * aside.x - direction.2 * aside.y + (arc.start.x + arc.finish.x) / ofInt 2,
    direction.2 * aside.x + direction.1 * aside.y + (arc.start.y + arc.finish.y) / ofInt 2⟩

/-- The way from the centre to the start, in the directions of the radii and measured by them. -/
def towardsStart (arc : Arc α) (direction : α × α) : Point α :=
  let half := arc.halfway direction
  let aside := arc.aside direction
  ⟨(half.x - aside.x) / arc.enlarged direction arc.radiusX,
    (half.y - aside.y) / arc.enlarged direction arc.radiusY⟩

def towardsFinish (arc : Arc α) (direction : α × α) : Point α :=
  let half := arc.halfway direction
  let aside := arc.aside direction
  ⟨(-half.x - aside.x) / arc.enlarged direction arc.radiusX,
    (-half.y - aside.y) / arc.enlarged direction arc.radiusY⟩

variable {arc : Arc α} {direction : α × α}

theorem centered_of_indivisible (found : arc.direction = .ok direction)
    (indivisible : arc.Indivisible direction) : arc.centered = .error .divisionByZero := by
  rw [centered, found]
  -- The third divisor is made with the quotients by the first two, so they are met in this order.
  change (quotient _ arc.squareX >>= fun _ => quotient _ arc.squareY >>= _) = _
  by_cases zeroX : eq arc.squareX (ofInt 0) = true
  · rw [quotient, if_pos zeroX]
    rfl
  by_cases zeroY : eq arc.squareY (ofInt 0) = true
  · rw [quotient, if_neg zeroX, quotient, if_pos zeroY]
    rfl
  · have zero := (indivisible.resolve_left zeroX).resolve_left zeroY
    rw [quotient, if_neg zeroX, quotient, if_neg zeroY]
    change (quotient _ (arc.weightedDistance direction) >>= _) = _
    rw [quotient, if_pos zero]
    rfl

/-- What becomes of an arc if no divisor is zero. -/
theorem centered_of_divisible (found : arc.direction = .ok direction)
    (divisible : ¬ arc.Indivisible direction) :
    arc.centered = .ok {
      center := arc.middle direction
      radiusX := arc.enlarged direction arc.radiusX
      radiusY := arc.enlarged direction arc.radiusY
      startAngle := angleBetween ⟨ofInt 1, ofInt 0⟩ (arc.towardsStart direction)
      sweepAngle := directedSweep arc.sweep
        (angleBetween (arc.towardsStart direction) (arc.towardsFinish direction)) } := by
  simp only [Indivisible, not_or] at divisible
  obtain ⟨zeroX, zeroY, zero⟩ := divisible
  rw [centered, found]
  change (quotient _ arc.squareX >>= fun _ => quotient _ arc.squareY >>= _) = _
  rw [quotient, if_neg zeroX, quotient, if_neg zeroY]
  change (quotient _ (arc.weightedDistance direction) >>= _) = _
  rw [quotient, if_neg zero]
  rfl

theorem points_eq_error_iff (found : arc.direction = .ok direction) (reason : Fault) :
    arc.points = .error reason ↔ reason = .divisionByZero ∧ arc.Indivisible direction := by
  rw [points]
  by_cases indivisible : arc.Indivisible direction
  · rw [centered_of_indivisible found indivisible]
    change Except.error Fault.divisionByZero = _ ↔ _
    rw [Except.error.injEq]
    exact ⟨fun same => ⟨same.symm, indivisible⟩, fun fault => fault.1.symm⟩
  · rw [centered_of_divisible found indivisible, found]
    constructor
    · intro failed
      cases failed
    · exact fun fault => absurd fault.2 indivisible

theorem flatten_eq_error_iff (found : arc.direction = .ok direction) (reason : Fault) :
    arc.flatten = .error reason ↔ reason = .divisionByZero ∧ arc.isFlat = false ∧
      arc.start.equals arc.finish = false ∧ arc.Indivisible direction := by
  rw [flatten]
  split
  case isTrue straight =>
      rw [Bool.or_eq_true] at straight
      simp only [reduceCtorEq, false_iff, not_and]
      intro _ curved apart
      simp [curved, apart] at straight
  case isFalse curved =>
      rw [Bool.or_eq_true, not_or, Bool.not_eq_true, Bool.not_eq_true] at curved
      simp [points_eq_error_iff found, curved]

end Arc

end Vignette
