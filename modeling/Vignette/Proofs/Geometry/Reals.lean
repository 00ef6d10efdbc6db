import Mathlib.Analysis.SpecialFunctions.Trigonometric.Inverse
import Vignette.Scalar

namespace Vignette

/-! Exact geometry: the real numbers are scalars. All of them are finite, and none is undefined. -/

/-- The whole number nearest to a real one; a half goes to the even one. -/
noncomputable def nearestWhole (x : ℝ) : Int :=
  if Int.fract x < 1 / 2 ∨ Int.fract x = 1 / 2 ∧ Even ⌊x⌋ then ⌊x⌋ else ⌊x⌋ + 1

noncomputable instance : Scalar ℝ where
  ofInt n := n
  lt x y := decide (x < y)
  le x y := decide (x ≤ y)
  eq x y := decide (x = y)
  isFinite _ := true
  abs x := |x|
  floor x := ⌊x⌋
  ceil x := ⌈x⌉
  nearest := nearestWhole
  cube x := x ^ 3
  sqrt := Real.sqrt
  hypot x y := Real.sqrt (x ^ 2 + y ^ 2)
  distance x y := Real.sqrt (x ^ 2 + y ^ 2)
  pi := Real.pi
  sin := Real.sin
  cos := Real.cos
  acos := Real.arccos

@[simp] theorem ofInt_real (n : Int) : (Scalar.ofInt n : ℝ) = n := rfl

@[simp] theorem ratio_real (m n : Int) : (Scalar.ratio m n : ℝ) = m / n := rfl

section Real

variable (x y : ℝ)

@[simp] theorem lt_real : Scalar.lt x y = decide (x < y) := rfl

@[simp] theorem le_real : Scalar.le x y = decide (x ≤ y) := rfl

@[simp] theorem eq_real : Scalar.eq x y = decide (x = y) := rfl

@[simp] theorem isFinite_real : Scalar.isFinite x = true := rfl

@[simp] theorem abs_real : Scalar.abs x = |x| := rfl

@[simp] theorem floor_real : Scalar.floor x = ⌊x⌋ := rfl

@[simp] theorem ceil_real : Scalar.ceil x = ⌈x⌉ := rfl

@[simp] theorem cube_real : Scalar.cube x = x ^ 3 := rfl

@[simp] theorem sqrt_real : Scalar.sqrt x = √x := rfl

@[simp] theorem hypot_real : Scalar.hypot x y = √(x ^ 2 + y ^ 2) := rfl

@[simp] theorem distance_real : Scalar.distance x y = √(x ^ 2 + y ^ 2) := rfl

@[simp] theorem pi_real : (Scalar.pi : ℝ) = Real.pi := rfl

@[simp] theorem sin_real : Scalar.sin x = Real.sin x := rfl

@[simp] theorem cos_real : Scalar.cos x = Real.cos x := rfl

@[simp] theorem acos_real : Scalar.acos x = Real.arccos x := rfl

@[simp] theorem isInfinite_real : Scalar.isInfinite x = false := by simp [Scalar.isInfinite]

theorem least_real : Scalar.least x y = min x y := by
  by_cases less : y < x
  · simp [Scalar.least, less, less.le]
  · simp [Scalar.least, less, not_lt.mp less]

theorem greatest_real : Scalar.greatest x y = max x y := by
  by_cases less : x < y
  · simp [Scalar.greatest, less, less.le]
  · simp [Scalar.greatest, less, not_lt.mp less]

end Real

/-- What lies between two numbers is beyond no bound of both. -/
theorem mix_within {low high a b t : ℝ} (least : 0 ≤ t) (greatest : t ≤ 1)
    (first : low ≤ a ∧ a ≤ high) (second : low ≤ b ∧ b ≤ high) :
    low ≤ a + t * (b - a) ∧ a + t * (b - a) ≤ high := by
  have rest : 0 ≤ 1 - t := sub_nonneg.mpr greatest
  constructor
  · calc low = (1 - t) * low + t * low := by ring
      _ ≤ (1 - t) * a + t * b := add_le_add (mul_le_mul_of_nonneg_left first.1 rest)
        (mul_le_mul_of_nonneg_left second.1 least)
      _ = a + t * (b - a) := by ring
  · calc a + t * (b - a) = (1 - t) * a + t * b := by ring
      _ ≤ (1 - t) * high + t * high := add_le_add (mul_le_mul_of_nonneg_left first.2 rest)
        (mul_le_mul_of_nonneg_left second.2 least)
      _ = high := by ring

end Vignette
