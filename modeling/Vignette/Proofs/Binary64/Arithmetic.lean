import Mathlib.Order.Compare
import Vignette.Proofs.Binary64.Rounding

namespace Vignette.Binary64

/-! Sums, differences, products and comparisons of floating point numbers, as fractions. An exact
result below a power of two is changed by at most what the last bit is worth there. Comparisons are
exact. -/

open Float.Model (Format UnpackedFloat)
open Float.Model.UnpackedFloat

variable {first second : UnpackedFloat} {bound : Int}

theorem value_positive {mantissa : Nat} (exponent : Int) (positive : 0 < mantissa) :
    value (.finite .positive mantissa exponent positive) = mantissa * 2 ^ exponent := rfl

theorem value_negative {mantissa : Nat} (exponent : Int) (positive : 0 < mantissa) :
    value (.finite .negative mantissa exponent positive) = -(mantissa * 2 ^ exponent) := by
  rw [value_of_pos]
  simp [Sign.apply]

theorem value_neg (number : UnpackedFloat) : value (neg number) = -value number := by
  cases number with
  | notANumber | infinity | zero => exact neg_zero.symm
  | finite sign mantissa exponent positive =>
      cases sign with
      | positive => exact value_negative exponent positive
      | negative =>
          rw [value_negative, neg_neg]
          exact value_positive exponent positive

theorem Canonical.neg {number : UnpackedFloat} (canonical : Canonical number) :
    Canonical (UnpackedFloat.neg number) := by
  cases number <;> exact canonical

/-- Taking away is adding what has the other sign, for zeros and infinities too. -/
theorem sub_eq_add (first second : UnpackedFloat) :
    sub Format.binary64 first second = add Format.binary64 first (neg second) := by
  cases first with
  | notANumber => rfl
  | infinity | zero => cases second <;> rfl
  | finite sign mantissa exponent positive =>
      cases second with
      | notANumber | infinity | zero => rfl
      | finite sign' mantissa' exponent' positive' =>
          have flipped (count : Int) : (-sign').apply count = -sign'.apply count := by
            cases sign' with
            | positive => rfl
            | negative => exact (Int.neg_neg count).symm
          refine congrArg (UnpackedFloat.normalize Format.binary64 · _ .positive) ?_
          rw [flipped, Int.sub_eq_add_neg]

theorem decreased_value (sign : Sign) (mantissa : Nat) {exponent least : Int}
    (below : least ≤ exponent) :
    ((sign.apply (decreaseExponent mantissa exponent least).1 : Int) : ℚ) * 2 ^ least =
      (sign.apply mantissa : Int) * 2 ^ exponent := by
  obtain ⟨count, rfl⟩ := Int.le.dest below
  have amount : (least + count - least).toNat = count := by omega
  have whole := shiftLeft_value mantissa count (least + count)
  rw [add_sub_cancel_right] at whole
  simp only [decreaseExponent, amount]
  cases sign <;> simp only [Sign.apply, Int.cast_neg, Int.cast_natCast, neg_mul, whole]

theorem near_of_eq {a b : ℚ} (same : a = b) : |a - b| ≤ 2 ^ (bound - 52) := by
  rw [same, sub_self, abs_zero]
  exact zpow_nonneg (by norm_num) _

theorem add_near (left : Canonical first) (right : Canonical second) (least : -1022 ≤ bound)
    (greatest : bound ≤ 1022) (below : |value first + value second| ≤ 2 ^ bound) :
    Canonical (add Format.binary64 first second) ∧
      |value (add Format.binary64 first second) - (value first + value second)| ≤
        2 ^ (bound - 52) := by
  cases first with
  | infinity | notANumber => exact left.elim
  | zero sign =>
      cases second with
      | infinity | notANumber => exact right.elim
      | zero sign' =>
          have sum : ∃ sign'', add Format.binary64 (.zero sign) (.zero sign') = .zero sign'' := by
            cases sign <;> cases sign' <;> exact ⟨_, rfl⟩
          obtain ⟨sign'', sum⟩ := sum
          rw [sum]
          exact ⟨trivial, near_of_eq (add_zero 0).symm⟩
      | finite sign' mantissa' exponent' positive' => exact ⟨right, near_of_eq (zero_add _).symm⟩
  | finite sign mantissa exponent positive =>
      cases second with
      | infinity | notANumber => exact right.elim
      | zero sign' => exact ⟨left, near_of_eq (add_zero _).symm⟩
      | finite sign' mantissa' exponent' positive' =>
          have near := normalize_near
            (sign.apply (decreaseExponent mantissa exponent (min exponent exponent')).1 +
              sign'.apply (decreaseExponent mantissa' exponent' (min exponent exponent')).1)
            (min exponent exponent') .positive least greatest
          rw [Int.cast_add, add_mul, decreased_value sign mantissa (min_le_left _ _),
            decreased_value sign' mantissa' (min_le_right _ _)] at near
          exact near below

theorem sub_near (left : Canonical first) (right : Canonical second) (least : -1022 ≤ bound)
    (greatest : bound ≤ 1022) (below : |value first - value second| ≤ 2 ^ bound) :
    Canonical (sub Format.binary64 first second) ∧
      |value (sub Format.binary64 first second) - (value first - value second)| ≤
        2 ^ (bound - 52) := by
  have opposite : value first - value second = value first + value (neg second) := by
    rw [value_neg, sub_eq_add_neg]
  rw [opposite] at below ⊢
  rw [sub_eq_add]
  exact add_near left right.neg least greatest below

theorem apply_mul (sign sign' : Sign) :
    ((sign * sign').apply 1 : ℚ) = sign.apply 1 * sign'.apply 1 := by
  have whole : (sign * sign').apply 1 = sign.apply 1 * sign'.apply 1 := by
    cases sign <;> cases sign' <;> rfl
  exact_mod_cast whole

/-- A product of significands has at least 53 bits, or both have the least exponent. -/
theorem product_high {mantissa mantissa' : Nat} {exponent exponent' : Int} (positive : 0 < mantissa)
    (positive' : 0 < mantissa') (full : 2 ^ 52 ≤ mantissa ∨ exponent = -1074)
    (full' : 2 ^ 52 ≤ mantissa' ∨ exponent' = -1074) :
    52 ≤ (mantissa * mantissa').log2 ∨ exponent + exponent' ≤ -1074 := by
  have nonzero : mantissa * mantissa' ≠ 0 := Nat.ne_of_gt (Nat.mul_pos positive positive')
  rcases full with large | lowest
  · exact .inl ((Nat.le_log2 nonzero).mpr (large.trans (Nat.le_mul_of_pos_right _ positive')))
  · rcases full' with large' | lowest'
    · exact .inl ((Nat.le_log2 nonzero).mpr (large'.trans (Nat.le_mul_of_pos_left _ positive)))
    · exact .inr (by omega)

theorem mul_near (left : Canonical first) (right : Canonical second) (least : -1022 ≤ bound)
    (greatest : bound ≤ 1022) (below : |value first * value second| ≤ 2 ^ bound) :
    Canonical (mul Format.binary64 first second) ∧
      |value (mul Format.binary64 first second) - value first * value second| ≤
        2 ^ (bound - 52) := by
  cases first with
  | infinity | notANumber => exact left.elim
  | zero sign =>
      cases second with
      | infinity | notANumber => exact right.elim
      | zero | finite => exact ⟨trivial, near_of_eq (zero_mul _).symm⟩
  | finite sign mantissa exponent positive =>
      cases second with
      | infinity | notANumber => exact right.elim
      | zero sign' => exact ⟨trivial, near_of_eq (mul_zero _).symm⟩
      | finite sign' mantissa' exponent' positive' =>
          have product : value (.finite sign mantissa exponent positive) *
              value (.finite sign' mantissa' exponent' positive') =
              (sign * sign').apply 1 *
                (((mantissa * mantissa' : Nat) : ℚ) * 2 ^ (exponent + exponent')) := by
            rw [value_of_pos, value_of_pos, apply_mul, zpow_add₀ (by norm_num), Nat.cast_mul]
            ring
          rw [product] at below ⊢
          rw [abs_apply] at below
          exact roundWithAccuracy_near (sign * sign') .exact (cutOff_whole _)
            (product_high positive positive' left.2.2.2 right.2.2.2) least greatest
            ((le_abs_self _).trans below)

/-- Numbers without a sign compare by their exponents first. -/
theorem compare_magnitudes {mantissa mantissa' : Nat} {exponent exponent' : Int}
    (fits : mantissa < 2 ^ 53) (fits' : mantissa' < 2 ^ 53)
    (full : 2 ^ 52 ≤ mantissa ∨ exponent = -1074) (full' : 2 ^ 52 ≤ mantissa' ∨ exponent' = -1074)
    (least : -1074 ≤ exponent) (least' : -1074 ≤ exponent') :
    (compare exponent exponent').then (compare mantissa mantissa') =
      compare ((mantissa : ℚ) * 2 ^ exponent) (mantissa' * 2 ^ exponent') := by
  -- A greater exponent makes up for all that the significands can differ.
  have less {m m' : Nat} {e e' : Int} (small : m < 2 ^ 53) (large : 2 ^ 52 ≤ m') (before : e < e') :
      (m : ℚ) * 2 ^ e < m' * 2 ^ e' := by
    have unit : (0 : ℚ) < 2 ^ e := zpow_pos (by norm_num) e
    have next : (2 : ℚ) * 2 ^ e ≤ 2 ^ e' := by
      rw [mul_comm, ← zpow_add_one₀ (by norm_num)]
      exact zpow_le_zpow_right₀ (by norm_num) before
    have small' : (m : ℚ) < 2 ^ 53 := by exact_mod_cast small
    have large' : (2 ^ 52 : ℚ) ≤ m' := by exact_mod_cast large
    nlinarith
  rcases lt_trichotomy exponent exponent' with before | rfl | behind
  · rw [compare_lt_iff_lt.mpr before,
      compare_lt_iff_lt.mpr (less fits (full'.resolve_right (by omega)) before)]
    rfl
  · have unit : (0 : ℚ) < 2 ^ exponent := zpow_pos (by norm_num) exponent
    rw [compare_eq_iff_eq.mpr rfl, Ordering.eq_then]
    rcases lt_trichotomy mantissa mantissa' with before | rfl | behind
    · rw [compare_lt_iff_lt.mpr before, eq_comm, compare_lt_iff_lt]
      exact mul_lt_mul_of_pos_right (by exact_mod_cast before) unit
    · rw [compare_eq_iff_eq.mpr rfl, compare_eq_iff_eq.mpr rfl]
    · rw [compare_gt_iff_gt.mpr behind, eq_comm, compare_gt_iff_gt]
      exact mul_lt_mul_of_pos_right (by exact_mod_cast behind) unit
  · rw [compare_gt_iff_gt.mpr behind,
      compare_gt_iff_gt.mpr (less fits' (full.resolve_right (by omega)) behind)]
    rfl

theorem compare_neg (a b : ℚ) : compare (-a) (-b) = (compare a b).swap := by
  rcases lt_trichotomy a b with less | rfl | greater
  · rw [compare_lt_iff_lt.mpr less]
    exact compare_gt_iff_gt.mpr (neg_lt_neg less)
  · rw [compare_eq_iff_eq.mpr rfl, compare_eq_iff_eq.mpr rfl]
    rfl
  · rw [compare_gt_iff_gt.mpr greater]
    exact compare_lt_iff_lt.mpr (neg_lt_neg greater)

theorem compare_values (left : Canonical first) (right : Canonical second) :
    first.compare second = some (compare (value first) (value second)) := by
  have magnitude {mantissa : Nat} (exponent : Int) (positive : 0 < mantissa) :
      (0 : ℚ) < mantissa * 2 ^ exponent :=
    mul_pos (by exact_mod_cast positive) (zpow_pos (by norm_num) exponent)
  cases first with
  | infinity | notANumber => exact left.elim
  | zero sign =>
      cases second with
      | infinity | notANumber => exact right.elim
      | zero sign' =>
          rw [value_zero, value_zero, compare_eq_iff_eq.mpr rfl]
          rfl
      | finite sign' mantissa' exponent' positive' =>
          have size := magnitude exponent' positive'
          cases sign' with
          | positive =>
              rw [value_zero, value_positive, compare_lt_iff_lt.mpr size]
              rfl
          | negative =>
              rw [value_zero, value_negative, compare_gt_iff_gt.mpr (neg_neg_of_pos size)]
              rfl
  | finite sign mantissa exponent positive =>
      have size := magnitude exponent positive
      cases second with
      | infinity | notANumber => exact right.elim
      | zero sign' =>
          cases sign with
          | positive =>
              rw [value_zero, value_positive, compare_gt_iff_gt.mpr size]
              rfl
          | negative =>
              rw [value_zero, value_negative, compare_lt_iff_lt.mpr (neg_neg_of_pos size)]
              rfl
      | finite sign' mantissa' exponent' positive' =>
          have size' := magnitude exponent' positive'
          have both := compare_magnitudes left.1 right.1 left.2.2.2 right.2.2.2 left.2.1 right.2.1
          cases sign with
          | positive =>
              cases sign' with
              | positive =>
                  rw [value_positive, value_positive, ← both]
                  rfl
              | negative =>
                  rw [value_positive, value_negative,
                    compare_gt_iff_gt.mpr ((neg_neg_of_pos size').trans size)]
                  rfl
          | negative =>
              cases sign' with
              | positive =>
                  rw [value_positive, value_negative,
                    compare_lt_iff_lt.mpr ((neg_neg_of_pos size).trans size')]
                  rfl
              | negative =>
                  rw [value_negative, value_negative, compare_neg, ← both]
                  rfl

end Vignette.Binary64
