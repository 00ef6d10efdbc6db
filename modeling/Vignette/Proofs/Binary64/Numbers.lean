import Mathlib.Data.Rat.Floor
import Vignette.Decimal.BinaryNumber
import Vignette.Proofs.Binary64.Division

namespace Vignette.Binary64

/-! The fractions that floating point numbers stand for, and what the program's arithmetic does to
them. -/

open Float.Model (Format UnpackedFloat)
open Float.Model.UnpackedFloat

def Represents (x : Float) (q : ℚ) : Prop :=
  Canonical x.toModel.unpack ∧ value x.toModel.unpack = q

variable {x y z : Float} {a b : ℚ}

theorem represents_of_isFinite (finite : x.isFinite = true) :
    Represents x (value x.toModel.unpack) :=
  ⟨canonical_unpack finite, rfl⟩

theorem represents_pack {number : UnpackedFloat} (canonical : Canonical number) :
    Represents (.ofModel (.pack number)) (value number) := by
  have same : (Float.Model.pack number).unpack = number := unpack_pack canonical
  constructor
  · exact same.symm ▸ canonical
  · exact congrArg value same

theorem float_lt_iff : x < y ↔ x.toModel.unpack.lt y.toModel.unpack = true := by
  change decide (x.toModel.unpack.lt y.toModel.unpack = true) = true ↔ _
  exact decide_eq_true_iff

theorem float_le_iff : x ≤ y ↔ x.toModel.unpack.le y.toModel.unpack = true := by
  change decide (x.toModel.unpack.le y.toModel.unpack = true) = true ↔ _
  exact decide_eq_true_iff

theorem float_le_of_lt (less : x < y) : x ≤ y := by
  rw [float_lt_iff, UnpackedFloat.lt, beq_iff_eq] at less
  rw [float_le_iff, UnpackedFloat.le, less]
  rfl

theorem isFinite_between {low number high : UnpackedFloat} (least : Canonical low)
    (greatest : Canonical high) (above : low.le number = true) (below : number.le high = true) :
    number.isFinite = true := by
  cases number with
  | zero | finite => rfl
  | notANumber => cases low <;> cases above
  | infinity sign =>
      cases sign with
      | positive =>
          cases high with
          | infinity | notANumber => exact greatest.elim
          | zero | finite => cases below
      | negative =>
          cases low with
          | infinity | notANumber => exact least.elim
          | zero | finite => cases above

/-- A number that is neither below a finite one nor above another one is finite. -/
theorem isFinite_within {low number high : UnpackedFloat} (least : Canonical low)
    (greatest : Canonical high) (defined : number.isNaN = false)
    (notBelow : number.lt low ≠ true) (notAbove : high.lt number ≠ true) :
    number.isFinite = true := by
  cases number with
  | zero | finite => rfl
  | notANumber => cases defined
  | infinity sign =>
      cases sign with
      | positive =>
          cases high with
          | infinity | notANumber => exact greatest.elim
          | zero | finite => exact absurd rfl notAbove
      | negative =>
          cases low with
          | infinity | notANumber => exact least.elim
          | zero | finite => exact absurd rfl notBelow

namespace Represents

theorem add (left : Represents x a) (right : Represents y b) (bound : Int)
    (least : -1022 ≤ bound) (greatest : bound ≤ 1022) (below : |a + b| ≤ 2 ^ bound) :
    ∃ q, Represents (x + y) q ∧ |q - (a + b)| ≤ 2 ^ (bound - 52) := by
  obtain ⟨whole, rfl⟩ := left
  obtain ⟨whole', rfl⟩ := right
  obtain ⟨canonical, near⟩ := add_near whole whole' least greatest below
  exact ⟨_, represents_pack canonical, near⟩

theorem sub (left : Represents x a) (right : Represents y b) (bound : Int)
    (least : -1022 ≤ bound) (greatest : bound ≤ 1022) (below : |a - b| ≤ 2 ^ bound) :
    ∃ q, Represents (x - y) q ∧ |q - (a - b)| ≤ 2 ^ (bound - 52) := by
  obtain ⟨whole, rfl⟩ := left
  obtain ⟨whole', rfl⟩ := right
  obtain ⟨canonical, near⟩ := sub_near whole whole' least greatest below
  exact ⟨_, represents_pack canonical, near⟩

theorem mul (left : Represents x a) (right : Represents y b) (bound : Int)
    (least : -1022 ≤ bound) (greatest : bound ≤ 1022) (below : |a * b| ≤ 2 ^ bound) :
    ∃ q, Represents (x * y) q ∧ |q - a * b| ≤ 2 ^ (bound - 52) := by
  obtain ⟨whole, rfl⟩ := left
  obtain ⟨whole', rfl⟩ := right
  obtain ⟨canonical, near⟩ := mul_near whole whole' least greatest below
  exact ⟨_, represents_pack canonical, near⟩

theorem div (left : Represents x a) (right : Represents y b) (nonzero : b ≠ 0) (bound : Int)
    (least : -1022 ≤ bound) (greatest : bound ≤ 1022) (below : |a / b| ≤ 2 ^ bound) :
    ∃ q, Represents (x / y) q ∧ |q - a / b| ≤ 2 ^ (bound - 52) := by
  obtain ⟨whole, rfl⟩ := left
  obtain ⟨whole', rfl⟩ := right
  obtain ⟨canonical, near⟩ := div_near whole whole' nonzero least greatest below
  exact ⟨_, represents_pack canonical, near⟩

theorem lt_iff (left : Represents x a) (right : Represents y b) : x < y ↔ a < b := by
  obtain ⟨whole, rfl⟩ := left
  obtain ⟨whole', rfl⟩ := right
  rw [float_lt_iff, UnpackedFloat.lt, compare_values whole whole', beq_iff_eq, Option.some.injEq,
    compare_lt_iff_lt]

theorem le_iff (left : Represents x a) (right : Represents y b) : x ≤ y ↔ a ≤ b := by
  obtain ⟨whole, rfl⟩ := left
  obtain ⟨whole', rfl⟩ := right
  rw [float_le_iff, UnpackedFloat.le, compare_values whole whole', Option.any_some,
    Ordering.isLE_iff_ne_gt]
  exact compare_gt_iff_gt.not.trans not_lt

/-- A number between two finite ones is finite. -/
theorem between (least : Represents x a) (greatest : Represents y b) (above : x ≤ z)
    (below : z ≤ y) : ∃ c, Represents z c ∧ a ≤ c ∧ c ≤ b := by
  have found := represents_of_isFinite
    (isFinite_between least.1 greatest.1 (float_le_iff.mp above) (float_le_iff.mp below))
  exact ⟨_, found, (least.le_iff found).mp above, (found.le_iff greatest).mp below⟩

theorem within (least : Represents x a) (greatest : Represents y b) (defined : z.isNaN = false)
    (notBelow : ¬z < x) (notAbove : ¬y < z) : ∃ c, Represents z c ∧ a ≤ c ∧ c ≤ b := by
  have found := represents_of_isFinite
    (isFinite_within least.1 greatest.1 defined (notBelow ∘ float_lt_iff.mpr)
      (notAbove ∘ float_lt_iff.mpr))
  exact ⟨_, found, not_lt.mp ((found.lt_iff least).not.mp notBelow),
    not_lt.mp ((greatest.lt_iff found).not.mp notAbove)⟩

end Represents

/-! ### Zeros -/

theorem value_ne_zero (sign : Sign) {mantissa : Nat} (exponent : Int) (positive : 0 < mantissa) :
    value (.finite sign mantissa exponent positive) ≠ 0 := by
  have size : (mantissa : ℚ) ≠ 0 := by exact_mod_cast Nat.ne_of_gt positive
  rw [value_of_pos]
  refine mul_ne_zero ?_ (mul_ne_zero size (zpow_ne_zero _ (by norm_num)))
  cases sign <;> simp [Sign.apply]

theorem represents_zero_iff : Represents x 0 ↔ ∃ sign, x.toModel.unpack = .zero sign := by
  constructor
  · rintro ⟨canonical, nothing⟩
    generalize x.toModel.unpack = number at canonical nothing ⊢
    cases number with
    | infinity | notANumber => exact canonical.elim
    | zero sign => exact ⟨sign, rfl⟩
    | finite sign mantissa exponent positive =>
        exact absurd nothing (value_ne_zero sign exponent positive)
  · rintro ⟨sign, unpacked⟩
    rw [Represents, unpacked]
    exact ⟨trivial, rfl⟩

theorem represents_zero_of_eq (same : Scalar.eq x (Scalar.ofInt 0) = true) : Represents x 0 := by
  have equal : x.toModel.unpack.beq (.zero .positive) = true := same
  refine represents_zero_iff.mpr ?_
  generalize x.toModel.unpack = number at equal ⊢
  cases number with
  | notANumber => cases equal
  | infinity sign => cases sign <;> cases equal
  | zero sign => exact ⟨sign, rfl⟩
  | finite sign => cases sign <;> cases equal

theorem represents_of_zero {number : UnpackedFloat} {sign : Sign} (same : number = .zero sign) :
    Represents (.ofModel (.pack number)) 0 := by
  subst same
  exact represents_pack (show Canonical (.zero sign) from trivial)

namespace Represents

/-! What is done with a zero is exact. -/

theorem zero_mul (left : Represents x 0) (right : Represents y b) : Represents (x * y) 0 := by
  obtain ⟨sign, unpacked⟩ := represents_zero_iff.mp left
  obtain ⟨canonical, -⟩ := right
  change Represents (.ofModel (.pack
    (UnpackedFloat.mul Format.binary64 x.toModel.unpack y.toModel.unpack))) 0
  rw [unpacked]
  generalize y.toModel.unpack = number at canonical ⊢
  cases number with
  | infinity | notANumber => exact canonical.elim
  | zero | finite => exact represents_of_zero rfl

theorem mul_zero (left : Represents x a) (right : Represents y 0) : Represents (x * y) 0 := by
  obtain ⟨sign, unpacked⟩ := represents_zero_iff.mp right
  obtain ⟨canonical, -⟩ := left
  change Represents (.ofModel (.pack
    (UnpackedFloat.mul Format.binary64 x.toModel.unpack y.toModel.unpack))) 0
  rw [unpacked]
  generalize x.toModel.unpack = number at canonical ⊢
  cases number with
  | infinity | notANumber => exact canonical.elim
  | zero | finite => exact represents_of_zero rfl

theorem zero_div (left : Represents x 0) (right : Represents y b) (nonzero : b ≠ 0) :
    Represents (x / y) 0 := by
  obtain ⟨sign, unpacked⟩ := represents_zero_iff.mp left
  obtain ⟨canonical, rfl⟩ := right
  change Represents (.ofModel (.pack
    (UnpackedFloat.div Format.binary64 x.toModel.unpack y.toModel.unpack))) 0
  rw [unpacked]
  generalize y.toModel.unpack = number at canonical nonzero ⊢
  cases number with
  | infinity | notANumber => exact canonical.elim
  | zero => exact absurd rfl nonzero
  | finite => exact represents_of_zero rfl

theorem zero_add (left : Represents x 0) (right : Represents y b) : Represents (x + y) b := by
  obtain ⟨sign, unpacked⟩ := represents_zero_iff.mp left
  obtain ⟨canonical, rfl⟩ := right
  change Represents (.ofModel (.pack
    (UnpackedFloat.add Format.binary64 x.toModel.unpack y.toModel.unpack))) _
  rw [unpacked]
  generalize y.toModel.unpack = number at canonical ⊢
  cases number with
  | infinity | notANumber => exact canonical.elim
  | zero sign' => cases sign <;> cases sign' <;> exact represents_of_zero rfl
  | finite => exact represents_pack canonical

theorem sub_zero (left : Represents x a) (right : Represents y 0) : Represents (x - y) a := by
  obtain ⟨sign, unpacked⟩ := represents_zero_iff.mp right
  obtain ⟨canonical, rfl⟩ := left
  change Represents (.ofModel (.pack
    (UnpackedFloat.sub Format.binary64 x.toModel.unpack y.toModel.unpack))) _
  rw [unpacked]
  generalize x.toModel.unpack = number at canonical ⊢
  cases number with
  | infinity | notANumber => exact canonical.elim
  | zero sign' => cases sign <;> cases sign' <;> exact represents_of_zero rfl
  | finite => exact represents_pack canonical

end Represents

/-! ### Whole numbers -/

def exactValue (number : BinaryNumber) : ℚ :=
  (if number.negative then -1 else 1) * (number.significand * 2 ^ number.exponent)

theorem numerator_eq (number : BinaryNumber) :
    (number.numerator : ℚ) = exactValue number * number.denominator := by
  obtain ⟨negative, significand, exponent⟩ := number
  have scaled : (2 : ℚ) ^ exponent.toNat = 2 ^ exponent * 2 ^ (-exponent).toNat := by
    rw [← zpow_natCast, ← zpow_natCast, ← zpow_add₀ (by norm_num)]
    congr 1
    omega
  have magnitude : (significand : ℚ) * 2 ^ exponent.toNat =
      significand * 2 ^ exponent * 2 ^ (-exponent).toNat := by
    rw [scaled, mul_assoc]
  simp only [BinaryNumber.numerator, BinaryNumber.denominator, exactValue, Nat.pow_eq]
  cases negative with
  | false => simpa using magnitude
  | true => simpa using magnitude

theorem exactValue_signed (negative : Prop) [Decidable negative] (significand : Nat)
    (exponent : Int) :
    exactValue ⟨decide negative, significand, exponent⟩ =
      ((if negative then Sign.negative else .positive).apply significand : Int) * 2 ^ exponent := by
  by_cases holds : negative <;> simp [exactValue, holds, Sign.apply]

theorem isFinite_of_canonical {number : UnpackedFloat} (canonical : Canonical number) :
    number.isFinite = true := by
  cases number with
  | zero | finite => rfl
  | infinity | notANumber => exact canonical.elim

/-- Both readings of the bits of a number agree. -/
theorem ofFloat?_of_represents (given : Represents x a) :
    ∃ number, BinaryNumber.ofFloat? x = some number ∧ exactValue number = a := by
  obtain ⟨canonical, rfl⟩ := given
  obtain ⟨bits, same⟩ : ∃ bits : BitVec Format.binary64.numBits,
      x.toModel.toBits.toBitVec = bits := ⟨_, rfl⟩
  have unpacked : x.toModel.unpack = unpack Format.binary64 bits :=
    congrArg (unpack Format.binary64) same
  have layout : x.toBits.toNat = bits.toNat := congrArg BitVec.toNat same
  rw [unpacked] at canonical ⊢
  unfold BinaryNumber.ofFloat?
  rw [layout]
  simp only [Nat.pow_eq]
  rw [← toNat_unpackExponent, ← toNat_unpackMantissa]
  rcases unpack_cases (isFinite_of_canonical canonical) with
    ⟨lowest, empty⟩ | ⟨lowest, nonempty⟩ | ⟨finite, normal⟩
  · have exponent : (unpackExponent bits).toNat = 0 := congrArg BitVec.toNat lowest
    have mantissa : (unpackMantissa bits).toNat = 0 := congrArg BitVec.toNat empty
    rw [unpack_zero lowest empty, exponent, mantissa, value_zero]
    exact ⟨_, rfl, by simp [exactValue]⟩
  · have exponent : (unpackExponent bits).toNat = 0 := congrArg BitVec.toNat lowest
    rw [unpack_subnormal lowest nonempty, exponent]
    refine ⟨_, rfl, ?_⟩
    rw [exactValue_signed, value_finite, ofBitVec_unpackSign]
  · have below : (unpackExponent bits).toNat ≠ 2 ^ 11 - 1 := fun top =>
      finite (BitVec.eq_of_toNat_eq top)
    have above : (unpackExponent bits).toNat ≠ 0 := fun zero =>
      normal (BitVec.eq_of_toNat_eq zero)
    rw [unpack_normal finite normal, if_neg below, if_neg above]
    refine ⟨_, rfl, ?_⟩
    rw [exactValue_signed, value_finite, ofBitVec_unpackSign, Nat.add_comm]
    rfl

theorem Represents.nearest (given : Represents x a) :
    |((Scalar.nearest x : Int) : ℚ) - a| ≤ 1 / 2 := by
  obtain ⟨number, found, rfl⟩ := ofFloat?_of_represents given
  have same : Scalar.nearest x = number.nearest := by
    change ((BinaryNumber.ofFloat? x).map BinaryNumber.nearest).getD 0 = _
    rw [found]
    rfl
  have positive : 0 < number.denominator := Nat.two_pow_pos _
  have positive' : (0 : ℚ) < number.denominator := by exact_mod_cast positive
  have near := nearestQuotient_near number.numerator positive
  have lower : -(number.denominator : ℚ) ≤
      2 * ((number.nearest : ℚ) * number.denominator - number.numerator) := by
    exact_mod_cast near.1
  have upper : 2 * ((number.nearest : ℚ) * number.denominator - number.numerator) ≤
      (number.denominator : ℚ) := by
    exact_mod_cast near.2
  rw [numerator_eq] at lower upper
  rw [same, abs_le]
  constructor <;> nlinarith

theorem exactValue_eq (number : BinaryNumber) :
    exactValue number = (number.numerator : ℚ) / (number.denominator : ℕ) := by
  have positive : (number.denominator : ℚ) ≠ 0 := by
    exact_mod_cast (Nat.two_pow_pos (-number.exponent).toNat).ne'
  rw [numerator_eq, mul_div_cancel_right₀ _ positive]

theorem Represents.floor (given : Represents x a) : Scalar.floor x = ⌊a⌋ := by
  obtain ⟨number, found, rfl⟩ := ofFloat?_of_represents given
  change ((BinaryNumber.ofFloat? x).map BinaryNumber.floor).getD 0 = _
  rw [found, exactValue_eq, Rat.floor_intCast_div_natCast]
  rfl

theorem Represents.ceil (given : Represents x a) : Scalar.ceil x = ⌈a⌉ := by
  obtain ⟨number, found, rfl⟩ := ofFloat?_of_represents given
  change ((BinaryNumber.ofFloat? x).map BinaryNumber.ceil).getD 0 = _
  rw [found, exactValue_eq, Rat.ceil_intCast_div_natCast]
  rfl

/-! ### Parts of a whole -/

/-- A part of a whole, from zero to one. -/
def IsPart (x : Float) : Prop := (0 : Float) ≤ x ∧ x ≤ (1 : Float)

theorem represents_zero : Represents (0 : Float) 0 := by
  have unpacked : (0 : Float).toModel.unpack = .zero .positive := by rfl
  rw [Represents, unpacked]
  exact ⟨trivial, rfl⟩

theorem represents_positive {mantissa : Nat} {exponent : Int} {positive : 0 < mantissa}
    (unpacked : x.toModel.unpack = .finite .positive mantissa exponent positive)
    (full : mantissa < 2 ^ 53 ∧ -1074 ≤ exponent ∧ exponent ≤ 971 ∧
      (2 ^ 52 ≤ mantissa ∨ exponent = -1074)) : Represents x (mantissa * 2 ^ exponent) := by
  rw [Represents, unpacked]
  exact ⟨full, value_positive exponent positive⟩

theorem represents_one : Represents (1 : Float) 1 := by
  have unpacked : (1 : Float).toModel.unpack =
      .finite .positive (2 ^ 52) (-52) (by decide) := by rfl
  have given := represents_positive unpacked (by decide)
  norm_num at given
  exact given

theorem IsPart.represents {x : Float} (part : IsPart x) :
    ∃ v, Represents x v ∧ 0 ≤ v ∧ v ≤ 1 :=
  represents_zero.between represents_one part.1 part.2

theorem isPart_of_represents {x : Float} {v : ℚ} (given : Represents x v) (least : 0 ≤ v)
    (greatest : v ≤ 1) : IsPart x :=
  ⟨(represents_zero.le_iff given).mpr least, (given.le_iff represents_one).mpr greatest⟩

theorem ofInt_zero : (Scalar.ofInt 0 : Float) = 0 := by rfl

theorem ofInt_one : (Scalar.ofInt 1 : Float) = 1 := by rfl

/-! ### Small numbers

Next to nothing is lost as long as results stay within 256. -/

theorem small_bound {v : ℚ} (least : -256 ≤ v) (greatest : v ≤ 256) : |v| ≤ 2 ^ (8 : Int) := by
  rw [show (2 : ℚ) ^ (8 : Int) = 256 by norm_num]
  exact abs_le.mpr ⟨least, greatest⟩

theorem small_error : (2 : ℚ) ^ ((8 : Int) - 52) ≤ 1 / 10000000000000 := by norm_num

namespace Represents

variable {x y : Float} {a b : ℚ}

theorem add_small (left : Represents x a) (right : Represents y b) (least : -256 ≤ a + b)
    (greatest : a + b ≤ 256) :
    ∃ q, Represents (x + y) q ∧ |q - (a + b)| ≤ 1 / 10000000000000 := by
  obtain ⟨q, given, near⟩ := left.add right 8 (by decide) (by decide) (small_bound least greatest)
  exact ⟨q, given, near.trans small_error⟩

theorem sub_small (left : Represents x a) (right : Represents y b) (least : -256 ≤ a - b)
    (greatest : a - b ≤ 256) :
    ∃ q, Represents (x - y) q ∧ |q - (a - b)| ≤ 1 / 10000000000000 := by
  obtain ⟨q, given, near⟩ := left.sub right 8 (by decide) (by decide) (small_bound least greatest)
  exact ⟨q, given, near.trans small_error⟩

theorem mul_small (left : Represents x a) (right : Represents y b) (least : -256 ≤ a * b)
    (greatest : a * b ≤ 256) :
    ∃ q, Represents (x * y) q ∧ |q - a * b| ≤ 1 / 10000000000000 := by
  obtain ⟨q, given, near⟩ := left.mul right 8 (by decide) (by decide) (small_bound least greatest)
  exact ⟨q, given, near.trans small_error⟩

theorem div_small (left : Represents x a) (right : Represents y b) (nonzero : b ≠ 0)
    (least : -256 ≤ a / b) (greatest : a / b ≤ 256) :
    ∃ q, Represents (x / y) q ∧ |q - a / b| ≤ 1 / 10000000000000 := by
  obtain ⟨q, given, near⟩ :=
    left.div right nonzero 8 (by decide) (by decide) (small_bound least greatest)
  exact ⟨q, given, near.trans small_error⟩

end Represents

theorem toFloat_near {n : Nat} (small : n < 256) :
    ∃ q, Represents n.toUInt64.toFloat q ∧ |q - n| ≤ 1 / 10000000000000 := by
  have least : (0 : ℚ) ≤ n := Nat.cast_nonneg n
  have greatest : (n : ℚ) ≤ 256 := by exact_mod_cast Nat.le_of_lt small
  have word : ((n.toUInt64.toNat : Int) : ℚ) * 2 ^ (0 : Int) = n := by
    rw [show n.toUInt64.toNat = n from Nat.mod_eq_of_lt (by omega), Int.cast_natCast, zpow_zero,
      mul_one]
  obtain ⟨canonical, near⟩ := normalize_near (n.toUInt64.toNat : Int) 0 .positive (by decide)
    (by decide) (word.symm ▸ small_bound (by linarith) greatest)
  rw [word] at near
  exact ⟨_, represents_pack canonical, near.trans small_error⟩

theorem ofInt_eq {n : Nat} (small : n < 256) :
    (Scalar.ofInt n : Float) = n.toUInt64.toFloat * 1 := by
  have room : Nat.pow 2 53 = 9007199254740992 := by decide
  change floatOfInt n = _
  rw [floatOfInt, if_pos (by omega)]
  change Float.ofScientific n false 0 = _
  rw [Float.ofScientific, dif_pos (by omega)]
  rfl

theorem represents_ofInt {n : Nat} (small : n < 256) :
    ∃ q, Represents (Scalar.ofInt n) q ∧ |q - n| ≤ 1 / 1000000000000 := by
  have bound : (n : ℚ) ≤ 255 := by exact_mod_cast Nat.le_of_lt_succ small
  have least : (0 : ℚ) ≤ n := Nat.cast_nonneg n
  obtain ⟨u, whole, near⟩ := toFloat_near small
  obtain ⟨lower, upper⟩ := abs_le.mp near
  obtain ⟨q, product, near⟩ := whole.mul_small represents_one (by linarith) (by linarith)
  obtain ⟨lower', upper'⟩ := abs_le.mp near
  rw [ofInt_eq small]
  exact ⟨q, product, abs_le.mpr ⟨by linarith, by linarith⟩⟩

end Vignette.Binary64
