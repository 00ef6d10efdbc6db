import Mathlib.Tactic.FieldSimp
import Mathlib.Tactic.Linarith
import Mathlib.Tactic.LinearCombination
import Vignette.Geometry.Arc
import Vignette.Proofs.Geometry.Reals

namespace Vignette

/-! Angles in exact geometry. The angle from one direction to another is known by its cosine and its
sine, the two products of the directions. An arc sweeps over that angle, or over what is left of a
full turn. -/

open Scalar

/-! ### Degrees -/

theorem radians_real (x : ℝ) : radians x = x * (Real.pi / 180) := by simp [radians]

theorem degrees_real (x : ℝ) : degrees x = x * (180 / Real.pi) := by simp [degrees]

theorem radians_degrees (x : ℝ) : radians (degrees x) = x := by
  have := Real.pi_ne_zero
  rw [radians_real, degrees_real]
  field_simp

theorem radians_add (x y : ℝ) : radians (x + y) = radians x + radians y := by
  simp only [radians_real, add_mul]

theorem radians_neg (x : ℝ) : radians (-x) = -radians x := by
  simp only [radians_real, neg_mul]

theorem radians_turns (turns : Int) : radians (360 * turns : ℝ) = turns * (2 * Real.pi) := by
  rw [radians_real]
  ring

theorem degrees_strictMono : StrictMono (degrees : ℝ → ℝ) := by
  intro x y less
  rw [degrees_real, degrees_real]
  exact mul_lt_mul_of_pos_right less (div_pos (by norm_num) Real.pi_pos)

@[simp] theorem degrees_zero : degrees (0 : ℝ) = 0 := by rw [degrees_real, zero_mul]

@[simp] theorem degrees_pi : degrees Real.pi = 180 := by
  rw [degrees_real]
  exact mul_div_cancel₀ _ Real.pi_ne_zero

/-! ### Directions -/

namespace Point

/-- A vector of length one. -/
def IsDirection (p : Point ℝ) : Prop := hypot p.x p.y = 1

theorem isDirection_iff {p : Point ℝ} : p.IsDirection ↔ p.x ^ 2 + p.y ^ 2 = 1 := by
  rw [IsDirection, hypot_real, Real.sqrt_eq_one]

def dot (u v : Point ℝ) : ℝ := u.x * v.x + u.y * v.y

def cross (u v : Point ℝ) : ℝ := u.x * v.y - u.y * v.x

section Directions

variable {u v : Point ℝ} (first : u.IsDirection) (second : v.IsDirection)
include first second

theorem dot_sq_add_cross_sq : u.dot v ^ 2 + u.cross v ^ 2 = 1 := by
  calc u.dot v ^ 2 + u.cross v ^ 2
      = (u.x ^ 2 + u.y ^ 2) * (v.x ^ 2 + v.y ^ 2) := by simp only [dot, cross]; ring
    _ = 1 := by rw [isDirection_iff.mp first, isDirection_iff.mp second, one_mul]

theorem dot_within : -1 ≤ u.dot v ∧ u.dot v ≤ 1 := by
  have sum := dot_sq_add_cross_sq first second
  exact abs_le.mp ((sq_le_one_iff_abs_le_one _).mp (by linarith [sq_nonneg (u.cross v)]))

/-- The cosine needs no cutting off. -/
theorem angleBetween_eq :
    angleBetween u v = (if u.cross v < 0 then -1 else 1) * degrees (Real.arccos (u.dot v)) := by
  obtain ⟨least, greatest⟩ := dot_within first second
  have lengths : hypot u.x u.y * hypot v.x v.y = 1 := by rw [first, second, one_mul]
  have cosine : (u.x * v.x + u.y * v.y) / 1 = u.dot v := div_one _
  simp only [angleBetween, lengths, cosine, least_real, greatest_real, lt_real, eq_real,
    ofInt_real, acos_real]
  simp [cross, least, greatest]

theorem abs_angleBetween : |angleBetween u v| = degrees (Real.arccos (u.dot v)) := by
  have least : 0 ≤ degrees (Real.arccos (u.dot v)) := by
    simpa using degrees_strictMono.monotone (Real.arccos_nonneg (u.dot v))
  rw [angleBetween_eq first second]
  split
  case isTrue => rw [neg_one_mul, abs_neg, abs_of_nonneg least]
  case isFalse => rw [one_mul, abs_of_nonneg least]

theorem abs_angleBetween_le : |angleBetween u v| ≤ 180 := by
  rw [abs_angleBetween first second, ← degrees_pi]
  exact degrees_strictMono.monotone (Real.arccos_le_pi _)

/-- Directions that are not the same have an angle between them. -/
theorem abs_angleBetween_pos (apart : u.dot v < 1) : 0 < |angleBetween u v| := by
  rw [abs_angleBetween first second, ← degrees_zero]
  exact degrees_strictMono (Real.arccos_pos.mpr apart)

theorem abs_angleBetween_eq_straight (opposite : u.dot v = -1) : |angleBetween u v| = 180 := by
  rw [abs_angleBetween first second, opposite, Real.arccos_neg_one, degrees_pi]

theorem abs_angleBetween_lt (bent : -1 < u.dot v) : |angleBetween u v| < 180 := by
  rw [abs_angleBetween first second, ← degrees_pi, ← Real.arccos_neg_one]
  exact degrees_strictMono
    (Real.strictAntiOn_arccos ⟨le_rfl, by norm_num⟩ (dot_within first second) bent)

theorem angleBetween_neg_iff : angleBetween u v < 0 ↔ u.cross v < 0 := by
  have sum := dot_sq_add_cross_sq first second
  have least : 0 ≤ degrees (Real.arccos (u.dot v)) :=
    (abs_nonneg _).trans_eq (abs_angleBetween first second)
  constructor
  · intro negative
    by_contra positive
    rw [angleBetween_eq first second, if_neg positive, one_mul] at negative
    exact negative.not_ge least
  · intro against
    have apart : u.dot v < 1 := by
      refine lt_of_le_of_ne (dot_within first second).2 fun same => ?_
      rw [same] at sum
      exact against.ne (pow_eq_zero_iff two_ne_zero |>.mp (by linarith))
    have turned : 0 < degrees (Real.arccos (u.dot v)) :=
      (abs_angleBetween_pos first second apart).trans_eq (abs_angleBetween first second)
    rw [angleBetween_eq first second, if_pos against]
    linarith

theorem cos_angleBetween : cos (radians (angleBetween u v)) = u.dot v := by
  obtain ⟨least, greatest⟩ := dot_within first second
  rw [cos_real, ← Real.cos_abs, radians_real, abs_mul, abs_angleBetween first second,
    abs_of_pos (div_pos Real.pi_pos (by norm_num)), ← radians_real, radians_degrees,
    Real.cos_arccos least greatest]

theorem sin_angleBetween : sin (radians (angleBetween u v)) = u.cross v := by
  have height : √(1 - u.dot v ^ 2) = |u.cross v| := by
    rw [← dot_sq_add_cross_sq first second, add_sub_cancel_left, Real.sqrt_sq_eq_abs]
  rw [angleBetween_eq first second, sin_real]
  split
  case isTrue against =>
    rw [neg_one_mul, radians_neg, radians_degrees, Real.sin_neg, Real.sin_arccos, height,
      abs_of_neg against, neg_neg]
  case isFalse along =>
    rw [one_mul, radians_degrees, Real.sin_arccos, height, abs_of_nonneg (not_lt.mp along)]

end Directions

/-- The direction at an angle in degrees. -/
noncomputable def ofAngle (angle : ℝ) : Point ℝ := ⟨cos (radians angle), sin (radians angle)⟩

theorem ofAngle_angleBetween {u : Point ℝ} (direction : u.IsDirection) :
    ofAngle (angleBetween ⟨1, 0⟩ u) = u := by
  have axis : (⟨1, 0⟩ : Point ℝ).IsDirection := isDirection_iff.mpr (by norm_num)
  rw [ofAngle, cos_angleBetween axis direction, sin_angleBetween axis direction]
  simp [dot, cross]

/-- To turn a direction by its angle to another one gives the other one. -/
theorem ofAngle_add {u v : Point ℝ} {first turn : ℝ} (direction : u.IsDirection)
    (start : ofAngle first = u) (along : cos (radians turn) = u.dot v)
    (aside : sin (radians turn) = u.cross v) : ofAngle (first + turn) = v := by
  obtain ⟨across, down⟩ := Point.mk.inj start
  have length := isDirection_iff.mp direction
  have x : cos (radians (first + turn)) = v.x := by
    rw [radians_add, cos_real, Real.cos_add, ← cos_real, ← cos_real, ← sin_real, ← sin_real, along,
      aside, across, down, dot, cross]
    linear_combination v.x * length
  have y : sin (radians (first + turn)) = v.y := by
    rw [radians_add, sin_real, Real.sin_add, ← cos_real, ← cos_real, ← sin_real, ← sin_real, along,
      aside, across, down, dot, cross]
    linear_combination v.y * length
  rw [ofAngle, x, y]

end Point

/-! ### Sweeps -/

namespace Arc

section Sweeps

variable (sweep : Bool) {angle : ℝ}

/-- A sweep is the angle itself if it runs in the demanded direction, and else what is left of a
full turn. -/
theorem directedSweep_cases (turned : angle ≠ 0) :
    directedSweep sweep angle = angle ∧ (0 < angle ↔ sweep = true) ∨
    directedSweep sweep angle = angle + 360 ∧ angle < 0 ∧ sweep = true ∨
    directedSweep sweep angle = angle - 360 ∧ 0 < angle ∧ sweep = false := by
  rcases lt_or_gt_of_ne turned with against | along <;> cases sweep
  case inl.false =>
    exact .inl ⟨by simp [directedSweep, against.not_gt, turned], by simp [against.le]⟩
  case inl.true => exact .inr (.inl ⟨by simp [directedSweep, against], against, rfl⟩)
  case inr.false => exact .inr (.inr ⟨by simp [directedSweep, along], along, rfl⟩)
  case inr.true => exact .inl ⟨by simp [directedSweep, along.not_gt, turned], by simp [along]⟩

theorem directedSweep_turns (turned : angle ≠ 0) :
    ∃ turns : Int, directedSweep sweep angle = angle + 360 * turns := by
  rcases directedSweep_cases sweep turned with ⟨same, _⟩ | ⟨more, _⟩ | ⟨less, _⟩
  · exact ⟨0, by simp [same]⟩
  · exact ⟨1, by simp [more]⟩
  · exact ⟨-1, by rw [less]; push_cast; ring⟩

theorem cos_directedSweep (turned : angle ≠ 0) :
    cos (radians (directedSweep sweep angle)) = cos (radians angle) := by
  obtain ⟨turns, same⟩ := directedSweep_turns sweep turned
  rw [same, radians_add, radians_turns, cos_real, Real.cos_add_int_mul_two_pi, cos_real]

theorem sin_directedSweep (turned : angle ≠ 0) :
    sin (radians (directedSweep sweep angle)) = sin (radians angle) := by
  obtain ⟨turns, same⟩ := directedSweep_turns sweep turned
  rw [same, radians_add, radians_turns, sin_real, Real.sin_add_int_mul_two_pi, sin_real]

variable (turned : angle ≠ 0) (half : |angle| ≤ 180)
include turned half

theorem directedSweep_pos_iff : 0 < directedSweep sweep angle ↔ sweep = true := by
  obtain ⟨least, greatest⟩ := abs_le.mp half
  rcases directedSweep_cases sweep turned with
    ⟨same, runs⟩ | ⟨more, against, runs⟩ | ⟨less, along, runs⟩
  · rw [same, runs]
  · rw [more]
    exact iff_of_true (by linarith) runs
  · rw [less]
    exact iff_of_false (by linarith) (by simp [runs])

theorem abs_directedSweep_cases :
    |directedSweep sweep angle| = |angle| ∧ (0 < angle ↔ sweep = true) ∨
    |directedSweep sweep angle| = 360 - |angle| ∧ ¬(0 < angle ↔ sweep = true) := by
  obtain ⟨least, greatest⟩ := abs_le.mp half
  rcases directedSweep_cases sweep turned with
    ⟨same, runs⟩ | ⟨more, against, demanded⟩ | ⟨less, along, demanded⟩
  · exact .inl ⟨congrArg _ same, runs⟩
  · refine .inr ⟨?_, fun runs => against.not_gt (runs.mpr demanded)⟩
    rw [more, abs_of_neg against, abs_of_pos (by linarith)]
    ring
  · refine .inr ⟨?_, fun runs => absurd (runs.mp along) (by simp [demanded])⟩
    rw [less, abs_of_pos along, abs_of_neg (by linarith)]
    ring

end Sweeps

end Arc

end Vignette
