import Vignette.Proofs.Geometry.Angles
import Vignette.Proofs.Geometry.Centering

namespace Vignette

/-! Arcs in exact geometry. An ellipse sees a point from its centre, along its axes and in its
radii, so that it passes through the points that it sees on the circle of radius one. There, the
ends of an arc are at the tips of a chord; half the chord is the leg that the centre leans away
from. -/

open Scalar

/-- An ellipse whose axes are rotated by an angle in degrees. -/
structure Ellipse where
  center : Point ℝ
  radiusX : ℝ
  radiusY : ℝ
  rotation : ℝ

namespace Ellipse

/-- A point as the ellipse sees it. -/
noncomputable def seen (e : Ellipse) (p : Point ℝ) : Point ℝ :=
  let c := cos (radians e.rotation)
  let s := sin (radians e.rotation)
  ⟨(c * (p.x - e.center.x) + s * (p.y - e.center.y)) / e.radiusX,
    (c * (p.y - e.center.y) - s * (p.x - e.center.x)) / e.radiusY⟩

/-- Whether a point lies on the ellipse. -/
def Passes (e : Ellipse) (p : Point ℝ) : Prop := (e.seen p).IsDirection

/-- The point that the ellipse sees at the given coordinates. -/
noncomputable def shown (e : Ellipse) (q : Point ℝ) : Point ℝ :=
  let c := cos (radians e.rotation)
  let s := sin (radians e.rotation)
  ⟨c * e.radiusX * q.x - s * e.radiusY * q.y + e.center.x,
    s * e.radiusX * q.x + c * e.radiusY * q.y + e.center.y⟩

/-- The point of the ellipse at an angle in degrees. -/
noncomputable def pointAt (e : Ellipse) (angle : ℝ) : Point ℝ :=
  e.shown (.ofAngle angle)

theorem axes (e : Ellipse) : cos (radians e.rotation) ^ 2 + sin (radians e.rotation) ^ 2 = 1 :=
  Real.cos_sq_add_sin_sq _

theorem shown_seen {e : Ellipse} (wide : e.radiusX ≠ 0) (high : e.radiusY ≠ 0) (p : Point ℝ) :
    e.shown (e.seen p) = p := by
  have axes := e.axes
  simp only [shown, seen]
  generalize cos (radians e.rotation) = c at *
  generalize sin (radians e.rotation) = s at *
  have x : c * e.radiusX * ((c * (p.x - e.center.x) + s * (p.y - e.center.y)) / e.radiusX) -
      s * e.radiusY * ((c * (p.y - e.center.y) - s * (p.x - e.center.x)) / e.radiusY) +
      e.center.x = p.x := by
    field_simp
    linear_combination (p.x - e.center.x) * axes
  have y : s * e.radiusX * ((c * (p.x - e.center.x) + s * (p.y - e.center.y)) / e.radiusX) +
      c * e.radiusY * ((c * (p.y - e.center.y) - s * (p.x - e.center.x)) / e.radiusY) +
      e.center.y = p.y := by
    field_simp
    linear_combination (p.y - e.center.y) * axes
  rw [x, y]

end Ellipse

/-- The ellipse that an arc given by its centre is a part of. -/
def CenteredArc.ellipse (whole : CenteredArc ℝ) (rotation : ℝ) : Ellipse :=
  ⟨whole.center, whole.radiusX, whole.radiusY, rotation⟩

namespace Point

/-- A vector with some of its perpendicular added. -/
def leaning (p : Point ℝ) (lean : ℝ) : Point ℝ := ⟨p.x - lean * p.y, p.y + lean * p.x⟩

def opposite (p : Point ℝ) : Point ℝ := ⟨-p.x, -p.y⟩

/-- The square of the length. -/
def square (p : Point ℝ) : ℝ := p.x ^ 2 + p.y ^ 2

theorem square_leaning (p : Point ℝ) (lean : ℝ) :
    (p.leaning lean).square = p.square * (1 + lean ^ 2) := by
  simp only [square, leaning]
  ring

theorem square_opposite (p : Point ℝ) : p.opposite.square = p.square := by
  simp only [square, opposite, neg_sq]

theorem dot_leaning (p : Point ℝ) (lean : ℝ) :
    (p.leaning lean).dot (p.opposite.leaning (-lean)) = p.square * (lean ^ 2 - 1) := by
  simp only [square, leaning, opposite, dot]
  ring

theorem cross_leaning (p : Point ℝ) (lean : ℝ) :
    (p.leaning lean).cross (p.opposite.leaning (-lean)) = 2 * lean * p.square := by
  simp only [square, leaning, opposite, cross]
  ring

end Point

theorem scaled_pos {radius scale : ℝ} (curved : radius ≠ 0) (positive : 0 < scale) :
    0 < |radius| * scale :=
  mul_pos (abs_pos.mpr curved) positive

namespace Arc

variable (arc : Arc ℝ)

/-- The ellipse with the given radii, enlarged or shrunk, around a centre. -/
def ellipse (center : Point ℝ) (scale : ℝ) : Ellipse :=
  ⟨center, |arc.radiusX| * scale, |arc.radiusY| * scale, arc.rotation⟩

/-- Whether the given radii, enlarged or shrunk, reach from end to end. -/
def Reaches (scale : ℝ) : Prop :=
  ∃ center, (arc.ellipse center scale).Passes arc.start ∧
    (arc.ellipse center scale).Passes arc.finish

/-- Whether the given radii reach from end to end, and smaller ones do not. -/
def JustReaches : Prop :=
  arc.Reaches 1 ∧ ∀ scale, 0 < scale → scale < 1 → ¬arc.Reaches scale

noncomputable def axis : ℝ × ℝ := (cos (radians arc.rotation), sin (radians arc.rotation))

theorem direction_real : arc.direction = .ok arc.axis := by simp [direction, axis]

theorem halfway_axis : arc.halfway arc.axis =
    ⟨(cos (radians arc.rotation) * (arc.start.x - arc.finish.x) +
        sin (radians arc.rotation) * (arc.start.y - arc.finish.y)) / 2,
      (cos (radians arc.rotation) * (arc.start.y - arc.finish.y) -
        sin (radians arc.rotation) * (arc.start.x - arc.finish.x)) / 2⟩ := by
  simp [halfway, axis]

/-- The half chord in the radii. -/
noncomputable def leg (scale : ℝ) : Point ℝ :=
  ⟨(arc.halfway arc.axis).x / (|arc.radiusX| * scale),
    (arc.halfway arc.axis).y / (|arc.radiusY| * scale)⟩

/-- The centre that leans away from the chord so far. -/
noncomputable def centerAt (scale lean : ℝ) : Point ℝ :=
  let c := cos (radians arc.rotation)
  let s := sin (radians arc.rotation)
  let rx := |arc.radiusX| * scale
  let ry := |arc.radiusY| * scale
  let half := arc.halfway arc.axis
  let cx := lean * (rx * half.y) / ry
  let cy := -lean * (ry * half.x) / rx
  ⟨c * cx - s * cy + (arc.start.x + arc.finish.x) / ofInt 2,
    s * cx + c * cy + (arc.start.y + arc.finish.y) / ofInt 2⟩

/-- How far the centre is from the chord, for each unit of half the chord. -/
noncomputable def slack (scale : ℝ) : ℝ := √|(1 - (arc.leg scale).square) / (arc.leg scale).square|

theorem square_leg (scale : ℝ) : (arc.leg scale).square = (arc.leg 1).square / scale ^ 2 := by
  simp only [Point.square, leg]
  ring

theorem balanced {scale : ℝ} (solid : 0 < (arc.leg scale).square)
    (enough : (arc.leg scale).square ≤ 1) :
    (arc.leg scale).square * (1 + arc.slack scale ^ 2) = 1 := by
  rw [slack, Real.sq_sqrt (abs_nonneg _),
    abs_of_nonneg (div_nonneg (sub_nonneg.mpr enough) solid.le)]
  field_simp
  ring

/-- The arc walked the other way. -/
def reversed : Arc ℝ := { arc with start := arc.finish, finish := arc.start }

theorem leg_reversed (scale : ℝ) : arc.reversed.leg scale = (arc.leg scale).opposite := by
  simp only [leg, halfway_axis, reversed, Point.opposite]
  rw [Point.mk.injEq]
  constructor <;> ring

theorem centerAt_reversed (scale lean : ℝ) :
    arc.reversed.centerAt scale (-lean) = arc.centerAt scale lean := by
  simp only [centerAt, halfway_axis, reversed]
  rw [Point.mk.injEq]
  constructor <;> ring

section Curved

variable {arc} (wide : arc.radiusX ≠ 0) (high : arc.radiusY ≠ 0)
include wide high

theorem seen_start {scale : ℝ} (positive : 0 < scale) (lean : ℝ) :
    (arc.ellipse (arc.centerAt scale lean) scale).seen arc.start =
      (arc.leg scale).leaning lean := by
  have axes := (arc.ellipse (arc.centerAt scale lean) scale).axes
  have wide' := scaled_pos wide positive
  have high' := scaled_pos high positive
  simp only [ellipse, Ellipse.seen, centerAt, leg, halfway_axis, Point.leaning, ofInt_real,
    Int.cast_ofNat] at axes ⊢
  generalize |arc.radiusX| * scale = rx at *
  generalize |arc.radiusY| * scale = ry at *
  generalize cos (radians arc.rotation) = c at *
  generalize sin (radians arc.rotation) = s at *
  obtain ⟨w, width⟩ : ∃ w, arc.start.x = arc.finish.x + w := ⟨_, (add_sub_cancel _ _).symm⟩
  obtain ⟨h, height⟩ : ∃ h, arc.start.y = arc.finish.y + h := ⟨_, (add_sub_cancel _ _).symm⟩
  rw [width, height, Point.mk.injEq]
  constructor
  · field_simp
    linear_combination -(rx ^ 2 * lean * (c * h - s * w)) * axes
  · field_simp
    linear_combination ry ^ 2 * lean * (c * w + s * h) * axes

theorem seen_finish {scale : ℝ} (positive : 0 < scale) (lean : ℝ) :
    (arc.ellipse (arc.centerAt scale lean) scale).seen arc.finish =
      (arc.leg scale).opposite.leaning (-lean) := by
  rw [← centerAt_reversed, ← leg_reversed]
  exact @seen_start arc.reversed wide high scale positive (-lean)

/-- The ellipse passes through both ends if the centre leans by what the half chord leaves of the
radii. -/
theorem passes_of_lean {scale lean : ℝ} (positive : 0 < scale)
    (balanced : (arc.leg scale).square * (1 + lean ^ 2) = 1) :
    (arc.ellipse (arc.centerAt scale lean) scale).Passes arc.start ∧
      (arc.ellipse (arc.centerAt scale lean) scale).Passes arc.finish := by
  rw [Ellipse.Passes, Ellipse.Passes, seen_start wide high positive,
    seen_finish wide high positive, Point.isDirection_iff, Point.isDirection_iff]
  refine ⟨(Point.square_leaning _ _).trans balanced, ?_⟩
  exact (Point.square_leaning _ _).trans (by rw [Point.square_opposite, neg_sq, balanced])

end Curved

theorem seen_apart (center : Point ℝ) (scale : ℝ) :
    let seen := (arc.ellipse center scale).seen
    (seen arc.start).x - (seen arc.finish).x = 2 * (arc.leg scale).x ∧
      (seen arc.start).y - (seen arc.finish).y = 2 * (arc.leg scale).y := by
  simp only [ellipse, Ellipse.seen, leg, halfway_axis]
  constructor <;> ring

/-- Two points of the circle are at most two radii apart. -/
theorem square_leg_le {scale : ℝ} (reaches : arc.Reaches scale) : (arc.leg scale).square ≤ 1 := by
  obtain ⟨center, first, second⟩ := reaches
  obtain ⟨x, y⟩ := arc.seen_apart center scale
  rw [Ellipse.Passes, Point.isDirection_iff] at first second
  generalize (arc.ellipse center scale).seen arc.start = u at *
  generalize (arc.ellipse center scale).seen arc.finish = v at *
  have apart : 4 * (arc.leg scale).square = (u.x - v.x) ^ 2 + (u.y - v.y) ^ 2 := by
    rw [x, y, Point.square]
    ring
  have sum : (u.x - v.x) ^ 2 + (u.y - v.y) ^ 2 + (u.x + v.x) ^ 2 + (u.y + v.y) ^ 2 = 4 := by
    linear_combination 2 * first + 2 * second
  linarith [sq_nonneg (u.x + v.x), sq_nonneg (u.y + v.y)]

/-! ### The chosen arc -/

/-- The factor by which the radii grow until they reach from end to end. -/
noncomputable def enlargement : ℝ :=
  if 1 < (arc.leg 1).square then √(arc.leg 1).square else 1

/-- To which side of the chord the centre goes is decided by the flags. -/
noncomputable def lean : ℝ :=
  if arc.large == arc.sweep then -arc.slack arc.enlargement else arc.slack arc.enlargement

noncomputable def chosen : Ellipse :=
  arc.ellipse (arc.centerAt arc.enlargement arc.lean) arc.enlargement

/-- The angle from the start to the finish, before it is made to run in the demanded direction. -/
noncomputable def rawAngle : ℝ :=
  angleBetween (arc.chosen.seen arc.start) (arc.chosen.seen arc.finish)

theorem one_le_enlargement : 1 ≤ arc.enlargement := by
  rw [enlargement]
  split
  case isTrue short => exact Real.one_le_sqrt.mpr short.le
  case isFalse => exact le_rfl

theorem enlargement_pos : 0 < arc.enlargement := one_pos.trans_le arc.one_le_enlargement

theorem enlargement_eq_one_iff : arc.enlargement = 1 ↔ (arc.leg 1).square ≤ 1 := by
  rw [enlargement]
  split
  case isTrue short => simp [Real.sqrt_eq_one, short.ne', short]
  case isFalse enough => simp [not_lt.mp enough]

theorem square_enlarged : (arc.leg arc.enlargement).square = min (arc.leg 1).square 1 := by
  rw [square_leg, enlargement]
  split
  case isTrue short =>
    rw [Real.sq_sqrt (one_pos.trans short).le, div_self (one_pos.trans short).ne',
      min_eq_right short.le]
  case isFalse enough => rw [one_pow, div_one, min_eq_left (not_lt.mp enough)]

theorem enlarged_enough : (arc.leg arc.enlargement).square ≤ 1 :=
  arc.square_enlarged.trans_le (min_le_right _ _)

theorem lean_sq : arc.lean ^ 2 = arc.slack arc.enlargement ^ 2 := by
  rw [lean]
  split
  case isTrue => exact neg_sq _
  case isFalse => rfl

theorem enlarged_eq (radius : ℝ) : arc.enlarged arc.axis radius = |radius| * arc.enlargement := by
  have reach : arc.reach arc.axis = (arc.leg 1).square := by
    simp only [reach, squareX, squareY, leg, Point.square, abs_real]
    ring
  simp only [enlarged, reach, enlargement, lt_real, ofInt_real, abs_real, sqrt_real,
    Int.cast_one, decide_eq_true_eq]
  split
  case isTrue => rfl
  case isFalse => exact (mul_one _).symm

section Chord

variable {arc} (apart : arc.start ≠ arc.finish) (wide : arc.radiusX ≠ 0) (high : arc.radiusY ≠ 0)
include apart wide high

/-- An ellipse does not see different points at the same place. -/
theorem square_leg_pos {scale : ℝ} (positive : 0 < scale) : 0 < (arc.leg scale).square := by
  refine lt_of_le_of_ne (add_nonneg (sq_nonneg _) (sq_nonneg _)) fun nothing => apart ?_
  obtain ⟨x, y⟩ := (add_eq_zero_iff_of_nonneg (sq_nonneg _) (sq_nonneg _)).mp nothing.symm
  obtain ⟨across, down⟩ := arc.seen_apart .origin scale
  rw [pow_eq_zero_iff two_ne_zero |>.mp x, mul_zero, sub_eq_zero] at across
  rw [pow_eq_zero_iff two_ne_zero |>.mp y, mul_zero, sub_eq_zero] at down
  have back := Ellipse.shown_seen (e := arc.ellipse .origin scale) (scaled_pos wide positive).ne'
    (scaled_pos high positive).ne'
  rw [← back arc.start, ← back arc.finish]
  exact congrArg _ (congrArg₂ Point.mk across down)

/-- The radii reach as soon as the half chord is no longer than they are. -/
theorem reaches_iff {scale : ℝ} (positive : 0 < scale) :
    arc.Reaches scale ↔ (arc.leg scale).square ≤ 1 := by
  have solid := square_leg_pos apart wide high positive
  refine ⟨arc.square_leg_le, fun enough => ?_⟩
  exact ⟨_, passes_of_lean wide high positive (arc.balanced solid enough)⟩

theorem justReaches_iff : arc.JustReaches ↔ (arc.leg 1).square = 1 := by
  have solid := square_leg_pos apart wide high one_pos
  rw [JustReaches, reaches_iff apart wide high one_pos]
  constructor
  · rintro ⟨enough, smaller⟩
    by_contra spare
    have less : √(arc.leg 1).square < 1 :=
      (Real.sqrt_lt' one_pos).mpr (by rw [one_pow]; exact lt_of_le_of_ne enough spare)
    refine smaller _ (Real.sqrt_pos.mpr solid) less ?_
    rw [reaches_iff apart wide high (Real.sqrt_pos.mpr solid), square_leg, Real.sq_sqrt solid.le,
      div_self solid.ne']
  · intro whole
    refine ⟨whole.le, fun scale positive less => ?_⟩
    rw [reaches_iff apart wide high positive, square_leg, whole, not_le]
    exact (one_lt_div (pow_pos positive 2)).mpr (pow_lt_one₀ positive.le less two_ne_zero)

end Chord

section Steps

variable {arc} (wide : arc.radiusX ≠ 0) (high : arc.radiusY ≠ 0)
include wide high

theorem weightedDistance_eq : arc.weightedDistance arc.axis =
    (|arc.radiusX| * arc.enlargement * (|arc.radiusY| * arc.enlargement)) ^ 2 *
      (arc.leg arc.enlargement).square := by
  have wide' := scaled_pos wide arc.enlargement_pos
  have high' := scaled_pos high arc.enlargement_pos
  simp only [weightedDistance, enlarged_eq, leg, Point.square]
  generalize |arc.radiusX| * arc.enlargement = rx at *
  generalize |arc.radiusY| * arc.enlargement = ry at *
  field_simp
  ring

theorem offset_eq : arc.offset arc.axis =
    (1 - (arc.leg arc.enlargement).square) / (arc.leg arc.enlargement).square := by
  have wide' := scaled_pos wide arc.enlargement_pos
  have high' := scaled_pos high arc.enlargement_pos
  have spare : ∀ rx ry : ℝ, 0 < rx → 0 < ry → ∀ half : Point ℝ,
      rx * rx * ry * ry - rx * rx * half.y * half.y - ry * ry * half.x * half.x =
        (rx * ry) ^ 2 * (1 - ((half.x / rx) ^ 2 + (half.y / ry) ^ 2)) := by
    intro rx ry wide high half
    field_simp
    ring
  rw [offset, weightedDistance_eq wide high]
  simp only [enlarged_eq]
  rw [spare _ _ wide' high']
  exact mul_div_mul_left _ _ (pow_ne_zero 2 (mul_pos wide' high').ne')

theorem factor_eq : arc.factor arc.axis = arc.lean := by
  rw [factor, offset_eq wide high]
  rfl

theorem middle_eq : arc.middle arc.axis = arc.chosen.center := by
  simp only [middle, aside, factor_eq wide high, enlarged_eq]
  rfl

theorem towardsStart_eq : arc.towardsStart arc.axis = arc.chosen.seen arc.start := by
  have wide' := scaled_pos wide arc.enlargement_pos
  have high' := scaled_pos high arc.enlargement_pos
  rw [chosen, seen_start wide high arc.enlargement_pos]
  simp only [towardsStart, aside, factor_eq wide high, enlarged_eq, leg, Point.leaning]
  generalize |arc.radiusX| * arc.enlargement = rx at *
  generalize |arc.radiusY| * arc.enlargement = ry at *
  rw [Point.mk.injEq]
  constructor
  · field_simp
  · field_simp
    ring

theorem towardsFinish_eq : arc.towardsFinish arc.axis = arc.chosen.seen arc.finish := by
  have wide' := scaled_pos wide arc.enlargement_pos
  have high' := scaled_pos high arc.enlargement_pos
  rw [chosen, seen_finish wide high arc.enlargement_pos]
  simp only [towardsFinish, aside, factor_eq wide high, enlarged_eq, leg, Point.leaning,
    Point.opposite]
  generalize |arc.radiusX| * arc.enlargement = rx at *
  generalize |arc.radiusY| * arc.enlargement = ry at *
  rw [Point.mk.injEq]
  constructor
  · field_simp
  · field_simp
    ring

end Steps

/-! ### Of four arcs the right one -/

section Ends

variable {arc} (apart : arc.start ≠ arc.finish) (wide : arc.radiusX ≠ 0) (high : arc.radiusY ≠ 0)
include apart wide high

theorem centered_eq : arc.centered = .ok {
    center := arc.chosen.center
    radiusX := arc.chosen.radiusX
    radiusY := arc.chosen.radiusY
    startAngle := angleBetween ⟨1, 0⟩ (arc.chosen.seen arc.start)
    sweepAngle := directedSweep arc.sweep arc.rawAngle } := by
  have solid := square_leg_pos apart wide high arc.enlargement_pos
  have squareX_ne : arc.squareX ≠ 0 := mul_self_ne_zero.mpr (abs_ne_zero.mpr wide)
  have squareY_ne : arc.squareY ≠ 0 := mul_self_ne_zero.mpr (abs_ne_zero.mpr high)
  have distance_ne : arc.weightedDistance arc.axis ≠ 0 := by
    rw [weightedDistance_eq wide high]
    exact (mul_pos (pow_pos (mul_pos (scaled_pos wide arc.enlargement_pos)
      (scaled_pos high arc.enlargement_pos)) 2) solid).ne'
  have divisible : ¬arc.Indivisible arc.axis := by
    simp [Indivisible, squareX_ne, squareY_ne, distance_ne]
  rw [centered_of_divisible arc.direction_real divisible, middle_eq wide high, enlarged_eq,
    enlarged_eq, towardsStart_eq wide high, towardsFinish_eq wide high]
  simp only [ofInt_real, Int.cast_one, Int.cast_zero]
  rfl

theorem chosen_passes :
    arc.chosen.Passes arc.start ∧ arc.chosen.Passes arc.finish := by
  have solid := square_leg_pos apart wide high arc.enlargement_pos
  refine passes_of_lean wide high arc.enlargement_pos ?_
  rw [lean_sq]
  exact arc.balanced solid arc.enlarged_enough

theorem dot_seen : (arc.chosen.seen arc.start).dot (arc.chosen.seen arc.finish) =
    1 - 2 * min (arc.leg 1).square 1 := by
  have solid := square_leg_pos apart wide high arc.enlargement_pos
  rw [chosen, seen_start wide high arc.enlargement_pos, seen_finish wide high arc.enlargement_pos,
    Point.dot_leaning, lean_sq, ← square_enlarged]
  linear_combination arc.balanced solid arc.enlarged_enough

omit apart in
theorem cross_seen : (arc.chosen.seen arc.start).cross (arc.chosen.seen arc.finish) =
    2 * arc.lean * min (arc.leg 1).square 1 := by
  rw [chosen, seen_start wide high arc.enlargement_pos, seen_finish wide high arc.enlargement_pos,
    Point.cross_leaning, square_enlarged]

theorem min_square_pos : 0 < min (arc.leg 1).square 1 :=
  lt_min (square_leg_pos apart wide high one_pos) one_pos

theorem rawAngle_ne_zero : arc.rawAngle ≠ 0 := by
  obtain ⟨start, finish⟩ := chosen_passes apart wide high
  refine abs_pos.mp (Point.abs_angleBetween_pos start finish ?_)
  rw [dot_seen apart wide high]
  linarith [min_square_pos apart wide high]

theorem abs_rawAngle_le : |arc.rawAngle| ≤ 180 := by
  obtain ⟨start, finish⟩ := chosen_passes apart wide high
  exact Point.abs_angleBetween_le start finish

theorem abs_rawAngle_of_tight (tight : 1 ≤ (arc.leg 1).square) : |arc.rawAngle| = 180 := by
  obtain ⟨start, finish⟩ := chosen_passes apart wide high
  refine Point.abs_angleBetween_eq_straight start finish ?_
  rw [dot_seen apart wide high, min_eq_right tight]
  norm_num

theorem abs_rawAngle_lt (spare : (arc.leg 1).square < 1) : |arc.rawAngle| < 180 := by
  obtain ⟨start, finish⟩ := chosen_passes apart wide high
  refine Point.abs_angleBetween_lt start finish ?_
  rw [dot_seen apart wide high, min_eq_left spare.le]
  linarith

/-- With radii to spare, the raw angle runs against the growing angles if the flags agree. -/
theorem rawAngle_neg_iff (spare : (arc.leg 1).square < 1) :
    arc.rawAngle < 0 ↔ arc.large = arc.sweep := by
  obtain ⟨start, finish⟩ := chosen_passes apart wide high
  have solid := square_leg_pos apart wide high one_pos
  have slack : 0 < arc.slack arc.enlargement := by
    rw [slack, square_enlarged, min_eq_left spare.le]
    exact Real.sqrt_pos.mpr (abs_pos.mpr (div_pos (sub_pos.mpr spare) solid).ne')
  have aside : 0 < 2 * arc.slack arc.enlargement * min (arc.leg 1).square 1 :=
    mul_pos (mul_pos two_pos slack) (min_square_pos apart wide high)
  rw [rawAngle, Point.angleBetween_neg_iff start finish, cross_seen wide high, lean]
  split
  case isTrue agree =>
    rw [mul_neg, neg_mul]
    exact iff_of_true (neg_lt_zero.mpr aside) (beq_iff_eq.mp agree)
  case isFalse differ =>
    exact iff_of_false aside.not_gt fun agree => differ (beq_iff_eq.mpr agree)

theorem rawAngle_pos_iff (spare : (arc.leg 1).square < 1) :
    0 < arc.rawAngle ↔ arc.large ≠ arc.sweep := by
  rw [ne_eq, ← rawAngle_neg_iff apart wide high spare, not_lt, le_iff_lt_or_eq,
    or_iff_left (rawAngle_ne_zero apart wide high).symm]

/-- With radii to spare, the sweep is more than half a turn if it is to be large. -/
theorem large_iff (spare : (arc.leg 1).square < 1) :
    180 < |directedSweep arc.sweep arc.rawAngle| ↔ arc.large = true := by
  have less := abs_rawAngle_lt apart wide high spare
  have turned := rawAngle_ne_zero apart wide high
  rcases abs_directedSweep_cases arc.sweep turned less.le with ⟨size, runs⟩ | ⟨size, runs⟩ <;>
    rw [rawAngle_pos_iff apart wide high spare] at runs
  · refine iff_of_false (by linarith) fun large => ?_
    rw [large] at runs
    cases sweep : arc.sweep <;> simp [sweep] at runs
  · refine iff_of_true (by linarith) ?_
    cases large : arc.large
    · cases sweep : arc.sweep <;> simp [large, sweep] at runs
    · rfl

theorem enlargement_ne_one_iff : arc.enlargement ≠ 1 ↔ ¬arc.Reaches 1 := by
  rw [reaches_iff apart wide high one_pos, ← enlargement_eq_one_iff]

theorem tight_iff : arc.JustReaches ∨ arc.enlargement ≠ 1 ↔ 1 ≤ (arc.leg 1).square := by
  rw [justReaches_iff apart wide high, ne_eq, enlargement_eq_one_iff, not_le, le_iff_lt_or_eq,
    or_comm, @eq_comm ℝ 1]

end Ends

/-- What makes a centred arc, with the given radii enlarged by a factor, the one of the four that
fit which the flags choose. -/
structure Picks (arc : Arc ℝ) (whole : CenteredArc ℝ) (scale : ℝ) : Prop where
  radiusX : whole.radiusX = |arc.radiusX| * scale
  radiusY : whole.radiusY = |arc.radiusY| * scale
  grows : 1 ≤ scale
  divisors : 0 < whole.radiusX ∧ 0 < whole.radiusY
  /-- Only radii that do not reach are enlarged. -/
  short : scale ≠ 1 → ¬arc.Reaches 1
  start : (whole.ellipse arc.rotation).Passes arc.start
  finish : (whole.ellipse arc.rotation).Passes arc.finish
  /-- Both angles are measured between vectors that have a length. -/
  startAngle : whole.startAngle =
    angleBetween ⟨1, 0⟩ ((whole.ellipse arc.rotation).seen arc.start)
  sweepAngle : whole.sweepAngle = directedSweep arc.sweep
    (angleBetween ((whole.ellipse arc.rotation).seen arc.start)
      ((whole.ellipse arc.rotation).seen arc.finish))
  runs : 0 < whole.sweepAngle ↔ arc.sweep = true
  turns : 0 < |whole.sweepAngle| ∧ |whole.sweepAngle| < 360
  straight : arc.JustReaches ∨ scale ≠ 1 → |whole.sweepAngle| = 180
  large : ¬(arc.JustReaches ∨ scale ≠ 1) → (180 < |whole.sweepAngle| ↔ arc.large = true)

/-- The way from the ends of an arc to its centre always arrives, and it picks the arc of the four
that the flags choose. -/
theorem centered_picks {arc : Arc ℝ} (apart : arc.start ≠ arc.finish) (wide : arc.radiusX ≠ 0)
    (high : arc.radiusY ≠ 0) :
    ∃ whole scale, arc.centered = .ok whole ∧ arc.Picks whole scale := by
  obtain ⟨start, finish⟩ := chosen_passes apart wide high
  have turned := rawAngle_ne_zero apart wide high
  have half := abs_rawAngle_le apart wide high
  have positive : 0 < |arc.rawAngle| := abs_pos.mpr turned
  refine ⟨_, arc.enlargement, centered_eq apart wide high, {
    radiusX := rfl
    radiusY := rfl
    grows := arc.one_le_enlargement
    divisors := ⟨scaled_pos wide arc.enlargement_pos, scaled_pos high arc.enlargement_pos⟩
    short := (enlargement_ne_one_iff apart wide high).mp
    start := start
    finish := finish
    startAngle := rfl
    sweepAngle := rfl
    runs := directedSweep_pos_iff arc.sweep turned half
    turns := ?_
    straight := fun tight => ?_
    large := fun spare => ?_ }⟩
  · rcases abs_directedSweep_cases arc.sweep turned half with ⟨size, _⟩ | ⟨size, _⟩ <;>
      exact ⟨by linarith, by linarith⟩
  · have straight := abs_rawAngle_of_tight apart wide high ((tight_iff apart wide high).mp tight)
    rcases abs_directedSweep_cases arc.sweep turned half with ⟨size, _⟩ | ⟨size, _⟩
    · exact size.trans straight
    · rw [size, straight]
      norm_num
  · rw [tight_iff apart wide high, not_le] at spare
    exact large_iff apart wide high spare

/-- Three quarters of a circle. -/
noncomputable def longWay : Arc ℝ := ⟨⟨10, 0⟩, 10, 10, 0, true, true, ⟨0, 10⟩⟩

theorem centered_picks_longWay : ∃ whole, longWay.centered = .ok whole ∧ whole.radiusX = 10 ∧
    180 < whole.sweepAngle ∧ whole.sweepAngle < 360 := by
  have apart : longWay.start ≠ longWay.finish := by simp [longWay]
  have wide : longWay.radiusX ≠ 0 := by simp [longWay]
  have high : longWay.radiusY ≠ 0 := by simp [longWay]
  have square : (longWay.leg 1).square = 1 / 2 := by
    simp only [leg, Point.square, halfway_axis, radians_real, longWay, zero_mul, cos_real, sin_real,
      Real.cos_zero, Real.sin_zero]
    norm_num
  have reaches : longWay.Reaches 1 := by
    rw [reaches_iff apart wide high one_pos, square]
    norm_num
  obtain ⟨whole, scale, made, picked⟩ := centered_picks apart wide high
  have kept : scale = 1 := by_contra fun grown => picked.short grown reaches
  have spare : ¬(longWay.JustReaches ∨ scale ≠ 1) := by
    rw [justReaches_iff apart wide high, square]
    norm_num [kept]
  have along := picked.runs.mpr rfl
  refine ⟨whole, made, ?_, ?_, ?_⟩
  · rw [picked.radiusX, kept]
    norm_num [longWay]
  · have far := (picked.large spare).mpr rfl
    rwa [abs_of_pos along] at far
  · have less := picked.turns.2
    rwa [abs_of_pos along] at less

/-! ### The angles -/

section Angles

variable {arc} (apart : arc.start ≠ arc.finish) (wide : arc.radiusX ≠ 0) (high : arc.radiusY ≠ 0)
include apart wide high

/-- The chosen arc starts and ends where it has to. -/
theorem centered_ends : ∃ whole, arc.centered = .ok whole ∧
    (whole.ellipse arc.rotation).pointAt whole.startAngle = arc.start ∧
    (whole.ellipse arc.rotation).pointAt (whole.startAngle + whole.sweepAngle) = arc.finish := by
  obtain ⟨start, finish⟩ := chosen_passes apart wide high
  have turned := rawAngle_ne_zero apart wide high
  have shown := Ellipse.shown_seen (e := arc.chosen) (scaled_pos wide arc.enlargement_pos).ne'
    (scaled_pos high arc.enlargement_pos).ne'
  refine ⟨_, centered_eq apart wide high, ?_, ?_⟩
  · exact (congrArg arc.chosen.shown (Point.ofAngle_angleBetween start)).trans (shown arc.start)
  · have along := (cos_directedSweep arc.sweep turned).trans (Point.cos_angleBetween start finish)
    have aside := (sin_directedSweep arc.sweep turned).trans (Point.sin_angleBetween start finish)
    have turn := Point.ofAngle_add start (Point.ofAngle_angleBetween start) along aside
    exact (congrArg arc.chosen.shown turn).trans (shown arc.finish)

/-- The points of an arc begin with its start. -/
theorem points_start : ∃ rest, arc.points = .ok (arc.start :: rest) := by
  obtain ⟨whole, made, start, _⟩ := centered_ends apart wide high
  let step : ℝ := if lt whole.sweepAngle (ofInt 0) then ofInt (-1) else ofInt 1
  have stepped : arc.points = .ok ((List.range (degreeCount whole.sweepAngle + 1)).map
      fun degree : Nat => (whole.ellipse arc.rotation).pointAt
        (whole.startAngle + step * ofInt degree)) := by
    rw [points, made, arc.direction_real]
    rfl
  have first : whole.startAngle + step * ofInt (0 : Nat) = whole.startAngle := by simp
  rw [stepped, List.range_succ_eq_map, List.map_cons, first, start]
  exact ⟨_, rfl⟩

end Angles

end Arc

end Vignette
