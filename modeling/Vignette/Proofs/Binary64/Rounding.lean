import Mathlib.Tactic.FieldSimp
import Mathlib.Tactic.Linarith
import Mathlib.Tactic.Ring
import Vignette.Proofs.Binary64.Packing

namespace Vignette.Binary64

/-! How far rounding goes. A number that is brought to 53 bits changes by no more than its last bit
is worth. The size of that bit follows from a bound on the number by a power of two. -/

open Float.Model (Format UnpackedFloat totalExponent)
open Float.Model.UnpackedFloat

theorem roundedMantissa_ge (extended : ExtendedMantissa) :
    extended.mantissa ≤ extended.roundedMantissa := by
  obtain ⟨mantissa, roundBit, stickyBit⟩ := extended
  cases roundBit <;> cases stickyBit <;>
    simp only [ExtendedMantissa.roundedMantissa, ExtendedMantissa.accuracy,
      Accuracy.roundToNearestEven] <;> omega

def shiftedExponent (mantissa : Nat) (exponent : Int) : Int :=
  max exponent (max (totalExponent mantissa exponent - 53) (-1074))

theorem shiftToTargetExponent_exponent (mantissa : Nat) (exponent : Int) (accuracy : Accuracy) :
    (shiftToTargetExponent Format.binary64 mantissa exponent accuracy).2 =
      shiftedExponent mantissa exponent :=
  (shiftToTargetExponent_bounds mantissa exponent accuracy).2

theorem shiftToTargetExponent_mantissa (mantissa : Nat) (exponent : Int) (accuracy : Accuracy) :
    (shiftToTargetExponent Format.binary64 mantissa exponent accuracy).1.mantissa =
      mantissa / 2 ^ (shiftedExponent mantissa exponent - exponent).toNat := by
  have target : Format.binary64.targetExponent (totalExponent mantissa exponent) =
      max (totalExponent mantissa exponent - 53) (-1074) := rfl
  simp only [shiftToTargetExponent, shiftToExponent, target, mantissa_shiftRight,
    mantissa_ofMantissaAndAccuracy, shiftedExponent]
  congr 2
  omega

/-- A significand that stands for a fraction: what is behind its point was cut off. -/
def CutOff (mantissa : Nat) (ideal : ℚ) : Prop := (mantissa : ℚ) ≤ ideal ∧ ideal ≤ mantissa + 1

theorem cutOff_whole (mantissa : Nat) : CutOff mantissa mantissa :=
  ⟨le_rfl, le_add_of_nonneg_right zero_le_one⟩

/-- Taking bits away and rounding changes a number by at most one unit of what is left. -/
theorem near_of_rounded {mantissa rounded : Nat} {ideal : ℚ} {exponent last : Int}
    (cut : CutOff mantissa ideal) (least : exponent ≤ last)
    (lower : mantissa / 2 ^ (last - exponent).toNat ≤ rounded)
    (upper : rounded ≤ mantissa / 2 ^ (last - exponent).toNat + 1) :
    |(rounded : ℚ) * 2 ^ last - ideal * 2 ^ exponent| ≤ 2 ^ last := by
  obtain ⟨count, rfl⟩ := Int.le.dest least
  have same : (exponent + count - exponent).toNat = count := by omega
  rw [same] at lower upper
  have unit : (0 : ℚ) < 2 ^ exponent := zpow_pos (by norm_num) exponent
  have below : mantissa + 1 ≤ rounded * 2 ^ count + 2 ^ count := by
    have split := Nat.lt_mul_div_succ mantissa (Nat.two_pow_pos count)
    have next := Nat.mul_le_mul_left (2 ^ count) (Nat.add_le_add_right lower 1)
    rw [Nat.mul_add _ rounded, Nat.mul_one, Nat.mul_comm _ rounded] at next
    exact Nat.lt_of_lt_of_le split next
  have above : rounded * 2 ^ count ≤ mantissa + 2 ^ count := by
    have whole := Nat.mul_le_mul_right (2 ^ count) upper
    have part := Nat.div_mul_le_self mantissa (2 ^ count)
    rw [Nat.add_mul, Nat.one_mul] at whole
    omega
  have below' : (mantissa : ℚ) + 1 ≤ rounded * 2 ^ count + 2 ^ count := by exact_mod_cast below
  have above' : (rounded : ℚ) * 2 ^ count ≤ mantissa + 2 ^ count := by exact_mod_cast above
  obtain ⟨atLeast, atMost⟩ := cut
  rw [zpow_add₀ (by norm_num), zpow_natCast, abs_le]
  constructor <;> nlinarith

/-- Bringing a rounded number to 53 bits again changes nothing. -/
theorem shift_rounded (mantissa : Nat) (exponent : Int) (fits : mantissa ≤ 2 ^ 53)
    (least : -1074 ≤ exponent) :
    let again := shiftToTargetExponent Format.binary64 mantissa exponent .exact
    (again.1.mantissa : ℚ) * 2 ^ again.2 = mantissa * 2 ^ exponent ∧
      (again.2 = exponent ∧ again.1.mantissa = mantissa ∧ mantissa < 2 ^ 53 ∨
        again.2 = exponent + 1 ∧ again.1.mantissa = 2 ^ 52) := by
  intro again
  have last : again.2 = shiftedExponent mantissa exponent :=
    shiftToTargetExponent_exponent mantissa exponent .exact
  have significand := shiftToTargetExponent_mantissa mantissa exponent .exact
  change again.1.mantissa = _ at significand
  rw [last, significand]
  rcases Nat.lt_or_eq_of_le fits with small | rfl
  · have log : mantissa.log2 ≤ 52 := by
      by_cases zero : mantissa = 0
      · simp [zero]
      · exact Nat.le_of_lt_succ ((Nat.log2_lt zero).mpr small)
    have same : shiftedExponent mantissa exponent = exponent := by
      rw [shiftedExponent, totalExponent]
      omega
    rw [same, Int.sub_self, Int.toNat_zero, Nat.pow_zero, Nat.div_one]
    exact ⟨rfl, .inl ⟨rfl, rfl, small⟩⟩
  · have next : shiftedExponent (2 ^ 53) exponent = exponent + 1 := by
      rw [shiftedExponent, totalExponent, Nat.log2_two_pow]
      omega
    have one : (exponent + 1 - exponent).toNat = 1 := by omega
    have half : 2 ^ 53 / 2 ^ 1 = 2 ^ 52 := by decide
    rw [next, one, half]
    refine ⟨?_, .inr ⟨rfl, rfl⟩⟩
    rw [zpow_add₀ (by norm_num)]
    push_cast
    ring

/-- A number below a power of two has its last bit 52 places below it. -/
theorem shiftedExponent_le {mantissa : Nat} {exponent bound : Int}
    (high : 52 ≤ mantissa.log2 ∨ exponent ≤ -1074) (least : -1022 ≤ bound)
    (below : (mantissa : ℚ) * 2 ^ exponent ≤ 2 ^ bound) :
    shiftedExponent mantissa exponent ≤ bound - 52 := by
  have unit : (0 : ℚ) < 2 ^ exponent := zpow_pos (by norm_num) exponent
  rcases Nat.eq_zero_or_pos mantissa with rfl | positive
  · rw [shiftedExponent, totalExponent]
    rw [Nat.log2_zero] at high ⊢
    omega
  have power : (2 : ℚ) ^ mantissa.log2 ≤ mantissa := by
    exact_mod_cast Nat.log2_self_le (Nat.ne_of_gt positive)
  have size : (2 : ℚ) ^ ((mantissa.log2 : Int) + exponent) ≤ 2 ^ bound := by
    rw [zpow_add₀ (by norm_num), zpow_natCast]
    exact (mul_le_mul_of_nonneg_right power unit.le).trans below
  have log := (zpow_le_zpow_iff_right₀ (by norm_num : (1 : ℚ) < 2)).mp size
  rw [shiftedExponent, totalExponent]
  omega

theorem two_pow_le_div {mantissa count : Nat} (nonzero : mantissa ≠ 0)
    (size : 52 + count ≤ mantissa.log2) : 2 ^ 52 ≤ mantissa / 2 ^ count := by
  rw [Nat.le_div_iff_mul_le (Nat.two_pow_pos count), ← Nat.pow_add]
  exact (Nat.pow_le_pow_right (by decide) size).trans (Nat.log2_self_le nonzero)

theorem value_of_pos {sign : Sign} {mantissa : Nat} {exponent : Int} (positive : 0 < mantissa) :
    value (.finite sign mantissa exponent positive) =
      sign.apply 1 * ((mantissa : ℚ) * 2 ^ exponent) := by
  have whole : ((sign.apply mantissa : Int) : ℚ) = sign.apply 1 * mantissa := by
    cases sign <;> simp [Sign.apply]
  rw [value_finite, whole, mul_assoc]

theorem abs_apply (sign : Sign) (x : ℚ) : |(sign.apply 1 : ℚ) * x| = |x| := by
  cases sign <;> simp [Sign.apply]

/-- A rounded significand with its exponent, before they are a number: there may be one bit too
many. -/
structure Settled (bound : Int) (ideal : ℚ) (mantissa : Nat) (exponent : Int) : Prop where
  fits : mantissa ≤ 2 ^ 53
  least : -1074 ≤ exponent
  greatest : exponent ≤ 970
  full : 2 ^ 52 ≤ mantissa ∨ exponent = -1074
  near : |(mantissa : ℚ) * 2 ^ exponent - ideal| ≤ 2 ^ (bound - 52)

theorem settled_of_shift {mantissa : Nat} {ideal : ℚ} {exponent bound : Int} (accuracy : Accuracy)
    (cut : CutOff mantissa ideal) (high : 52 ≤ mantissa.log2 ∨ exponent ≤ -1074)
    (least : -1022 ≤ bound) (greatest : bound ≤ 1022) (below : ideal * 2 ^ exponent ≤ 2 ^ bound) :
    let shifted := shiftToTargetExponent Format.binary64 mantissa exponent accuracy
    Settled bound (ideal * 2 ^ exponent) shifted.1.roundedMantissa shifted.2 := by
  intro shifted
  have unit : (0 : ℚ) < 2 ^ exponent := zpow_pos (by norm_num) exponent
  have lastBound := shiftedExponent_le high least
    ((mul_le_mul_of_nonneg_right cut.1 unit.le).trans below)
  have fits : shifted.1.mantissa < 2 ^ 53 :=
    (shiftToTargetExponent_bounds mantissa exponent accuracy).1
  have significand : shifted.1.mantissa =
      mantissa / 2 ^ (shiftedExponent mantissa exponent - exponent).toNat :=
    shiftToTargetExponent_mantissa mantissa exponent accuracy
  have lower := roundedMantissa_ge shifted.1
  have upper := roundedMantissa_le shifted.1
  have last : shifted.2 = shiftedExponent mantissa exponent :=
    shiftToTargetExponent_exponent mantissa exponent accuracy
  have lastLeast : -1074 ≤ shiftedExponent mantissa exponent ∧
      exponent ≤ shiftedExponent mantissa exponent := by
    rw [shiftedExponent]
    omega
  rw [last]
  refine ⟨by omega, lastLeast.1, by omega, ?_, ?_⟩
  · by_cases lowest : shiftedExponent mantissa exponent = -1074
    · exact .inr lowest
    · have nonzero : mantissa ≠ 0 := by
        rintro rfl
        rw [Nat.log2_zero] at high
        rw [shiftedExponent, totalExponent, Nat.log2_zero] at lowest
        omega
      refine .inl ((two_pow_le_div nonzero ?_).trans (significand ▸ lower))
      rw [shiftedExponent, totalExponent] at lowest ⊢
      omega
  · exact (near_of_rounded cut lastLeast.2 (significand ▸ lower) (significand ▸ upper)).trans
      (zpow_le_zpow_right₀ (by norm_num) lastBound)

/-- A second shift takes the bit away that is too many, and changes no value. -/
theorem Settled.finish {bound exponent : Int} {ideal : ℚ} {mantissa : Nat}
    (settled : Settled bound ideal mantissa exponent) (sign : Sign) :
    let again := shiftToTargetExponent Format.binary64 mantissa exponent .exact
    let number : UnpackedFloat := if empty : again.1.mantissa = 0 then .zero sign
      else .finite sign again.1.mantissa again.2 (Nat.pos_of_ne_zero empty)
    Canonical number ∧ |value number - sign.apply 1 * ideal| ≤ 2 ^ (bound - 52) := by
  obtain ⟨fits, least, greatest, full, near⟩ := settled
  obtain ⟨same, carried⟩ := shift_rounded mantissa exponent fits least
  generalize shiftToTargetExponent Format.binary64 mantissa exponent .exact = again
    at same carried ⊢
  dsimp only
  by_cases empty : again.1.mantissa = 0
  · rw [dif_pos empty, value_zero, zero_sub, abs_neg, abs_apply]
    rw [← same, empty, Nat.cast_zero, zero_mul, zero_sub, abs_neg] at near
    exact ⟨trivial, near⟩
  · rw [dif_neg empty, value_of_pos, same, ← mul_sub, abs_apply]
    refine ⟨?_, near⟩
    -- A significand of 2 ^ 53 is halved without a loss, and its exponent grows by one.
    rcases carried with ⟨last, whole, small⟩ | ⟨last, whole⟩
    · exact ⟨by omega, by omega, by omega, by omega⟩
    · exact ⟨by omega, by omega, by omega, .inl (by omega)⟩

/-- Rounding a number that has at least 53 bits, or as many as there is room for. -/
theorem roundWithAccuracy_near (sign : Sign) {mantissa : Nat} {ideal : ℚ} {exponent bound : Int}
    (accuracy : Accuracy) (cut : CutOff mantissa ideal)
    (high : 52 ≤ mantissa.log2 ∨ exponent ≤ -1074) (least : -1022 ≤ bound)
    (greatest : bound ≤ 1022) (below : ideal * 2 ^ exponent ≤ 2 ^ bound) :
    Canonical (roundWithAccuracy Format.binary64 sign mantissa exponent accuracy) ∧
      |value (roundWithAccuracy Format.binary64 sign mantissa exponent accuracy) -
        sign.apply 1 * (ideal * 2 ^ exponent)| ≤ 2 ^ (bound - 52) :=
  (settled_of_shift accuracy cut high least greatest below).finish sign

theorem shiftLeft_value (mantissa count : Nat) (exponent : Int) :
    ((mantissa <<< count : Nat) : ℚ) * 2 ^ (exponent - count) = mantissa * 2 ^ exponent := by
  rw [Nat.shiftLeft_eq, zpow_sub₀ (by norm_num), zpow_natCast]
  push_cast
  field_simp

theorem round_near (sign : Sign) {mantissa : Nat} {exponent bound : Int}
    (positive : 0 < mantissa) (least : -1022 ≤ bound) (greatest : bound ≤ 1022)
    (below : (mantissa : ℚ) * 2 ^ exponent ≤ 2 ^ bound) :
    Canonical (UnpackedFloat.round Format.binary64 sign mantissa exponent) ∧
      |value (UnpackedFloat.round Format.binary64 sign mantissa exponent) -
        sign.apply 1 * (mantissa * 2 ^ exponent)| ≤ 2 ^ (bound - 52) := by
  have target : Format.binary64.targetExponent (totalExponent mantissa exponent) =
      max (totalExponent mantissa exponent - 53) (-1074) := rfl
  rw [UnpackedFloat.round, target, totalExponent]
  simp only [decreaseExponent]
  -- Before rounding, a number with few bits is shifted to the left, as far as there is room.
  generalize amount : (exponent - max ((mantissa.log2 : Int) + 1 + exponent - 53) (-1074)).toNat =
    count
  have log : (mantissa <<< count).log2 = mantissa.log2 + count := by
    have size := (Nat.log2_eq_iff (Nat.ne_of_gt positive)).mp rfl
    rw [Nat.shiftLeft_eq, Nat.log2_eq_iff (Nat.ne_of_gt (Nat.mul_pos positive
      (Nat.two_pow_pos count))), Nat.pow_add, Nat.add_right_comm, Nat.pow_add]
    exact ⟨Nat.mul_le_mul_right _ size.1,
      Nat.mul_lt_mul_of_pos_right size.2 (Nat.two_pow_pos count)⟩
  have high : 52 ≤ (mantissa <<< count).log2 ∨ exponent - count ≤ -1074 := by
    rw [log]
    omega
  have same := shiftLeft_value mantissa count exponent
  have near := roundWithAccuracy_near sign .exact (cutOff_whole _) high least greatest
    (same ▸ below)
  rwa [same] at near

theorem normalize_near (mantissa exponent : Int) {bound : Int} (zeroSign : Sign)
    (least : -1022 ≤ bound) (greatest : bound ≤ 1022)
    (below : |(mantissa : ℚ) * 2 ^ exponent| ≤ 2 ^ bound) :
    Canonical (UnpackedFloat.normalize Format.binary64 mantissa exponent zeroSign) ∧
      |value (UnpackedFloat.normalize Format.binary64 mantissa exponent zeroSign) -
        mantissa * 2 ^ exponent| ≤ 2 ^ (bound - 52) := by
  have unit : (0 : ℚ) < 2 ^ exponent := zpow_pos (by norm_num) exponent
  rcases Int.lt_trichotomy mantissa 0 with negative | rfl | positive
  · have flipped : (((-mantissa).toNat : Nat) : ℚ) = -mantissa := by
      have whole : (((-mantissa).toNat : Nat) : Int) = -mantissa := by omega
      exact_mod_cast whole
    have small : (((-mantissa).toNat : Nat) : ℚ) * 2 ^ exponent ≤ 2 ^ bound := by
      rw [flipped, neg_mul]
      exact (neg_le_abs _).trans below
    have near := round_near .negative (by omega) least greatest small
    rw [flipped] at near
    rw [UnpackedFloat.normalize, Int.compare_eq_lt.mpr negative]
    simpa [Sign.apply] using near
  · rw [UnpackedFloat.normalize]
    refine ⟨trivial, ?_⟩
    have nothing : value (.zero zeroSign) = 0 := rfl
    simp [nothing, zpow_nonneg]
  · have kept : ((mantissa.toNat : Nat) : ℚ) = mantissa := by
      have whole : ((mantissa.toNat : Nat) : Int) = mantissa := by omega
      exact_mod_cast whole
    have small : ((mantissa.toNat : Nat) : ℚ) * 2 ^ exponent ≤ 2 ^ bound := by
      rw [kept]
      exact (le_abs_self _).trans below
    have near := round_near .positive (by omega) least greatest small
    rw [kept] at near
    rw [UnpackedFloat.normalize, Int.compare_eq_gt.mpr positive]
    simpa [Sign.apply] using near

end Vignette.Binary64
