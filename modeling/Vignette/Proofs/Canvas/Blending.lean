import Mathlib.Tactic.Linarith
import Vignette.Proofs.Canvas.Uncovered
import Vignette.Proofs.Geometry.Reals

namespace Vignette

/-! Colors laid over pixels, in exact arithmetic. Each channel is a mean of the new color and the
old one, weighted by what each contributes to the opacity. So it lies between the two, and rounding
keeps it there. The opacity never falls. -/

open Scalar (ofInt)

/-! ### Rounding -/

theorem nearestWhole_within {low high : Int} {x : ℝ} (least : (low : ℝ) ≤ x)
    (greatest : x ≤ high) : low ≤ nearestWhole x ∧ nearestWhole x ≤ high := by
  have below : low ≤ ⌊x⌋ := Int.le_floor.mpr least
  rw [nearestWhole]
  split
  case isTrue =>
    exact ⟨below, by exact_mod_cast (Int.floor_le x).trans greatest⟩
  case isFalse far =>
    -- What is rounded up is not whole, so the next whole number is not beyond the bound.
    have part : 1 / 2 ≤ Int.fract x := not_lt.mp fun less => far (.inl less)
    have above : (⌊x⌋ : ℝ) < high := by linarith [Int.self_sub_floor x]
    have above' : ⌊x⌋ < high := by exact_mod_cast above
    exact ⟨by omega, by omega⟩

theorem nearestWhole_intCast (n : Int) : nearestWhole n = n :=
  have ⟨least, greatest⟩ := nearestWhole_within (le_refl (n : ℝ)) le_rfl
  le_antisymm greatest least

namespace Pixel

/-- No byte has to be cut off from a number that is between the least and the greatest byte. -/
theorem toByte_eq_nearest {x : ℝ} (least : 0 ≤ x) (greatest : x ≤ 255) :
    ((toByte x).toNat : Int) = Scalar.nearest x := by
  change _ = nearestWhole x
  rw [toByte]
  split
  case isTrue low =>
    have zero : x = (0 : Int) := by
      simpa using le_antisymm (by simpa using low) least
    rw [zero, nearestWhole_intCast]
    rfl
  split
  case isTrue high =>
    have full : x = (255 : Int) := by
      simpa using le_antisymm greatest (by simpa using high)
    rw [full, nearestWhole_intCast]
    rfl
  case isFalse =>
    obtain ⟨lower, upper⟩ : 0 ≤ nearestWhole x ∧ nearestWhole x ≤ 255 :=
      nearestWhole_within (by simpa using least) (by simpa using greatest)
    change ((UInt8.ofNat (nearestWhole x).toNat).toNat : Int) = nearestWhole x
    rw [UInt8.toNat_ofNat', Nat.mod_eq_of_lt (by omega)]
    omega

/-- Between two bytes, the nearest byte is so too. -/
theorem toByte_within {low high : Int} {x : ℝ} (byte : 0 ≤ low) (byte' : high ≤ 255)
    (least : (low : ℝ) ≤ x) (greatest : x ≤ high) :
    low ≤ (toByte x).toNat ∧ ((toByte x).toNat : Int) ≤ high := by
  have lower : (0 : ℝ) ≤ low := by exact_mod_cast byte
  have upper : (high : ℝ) ≤ 255 := by exact_mod_cast byte'
  rw [toByte_eq_nearest (lower.trans least) (greatest.trans upper)]
  exact nearestWhole_within least greatest

theorem toByte_intCast {n : Int} (range : 0 ≤ n ∧ n ≤ 255) :
    ((toByte (n : ℝ)).toNat : Int) = n := by
  have number : (0 : ℝ) ≤ n ∧ (n : ℝ) ≤ 255 := by exact_mod_cast range
  rw [toByte_eq_nearest number.1 number.2]
  exact nearestWhole_intCast n

theorem byte_within (byte : UInt8) : (0 : ℝ) ≤ byte.toNat ∧ (byte.toNat : ℝ) ≤ 255 :=
  ⟨Nat.cast_nonneg _, by exact_mod_cast Nat.le_of_lt_succ byte.toNat_lt⟩

/-! ### Means -/

section Mixing

variable {opacity old : ℝ}

theorem mixedOpacity_real (opacity old : ℝ) :
    mixedOpacity opacity old = opacity + old * (1 - opacity) := by
  simp [mixedOpacity]

theorem mixedChannel_real (opacity old : ℝ) (new : Int) (byte : UInt8) :
    mixedChannel opacity old new byte =
      (new * opacity + byte.toNat * old * (1 - opacity)) /
        (if 0 < mixedOpacity opacity old then mixedOpacity opacity old else 1) := by
  simp [mixedChannel, ofByte]

/-- A channel is the new one if the old one contributes nothing. -/
theorem mixedChannel_alone (visible : 0 < mixedOpacity opacity old)
    (alone : old * (1 - opacity) = 0) (new : Int) (byte : UInt8) :
    mixedChannel opacity old new byte = new := by
  rw [mixedChannel_real, if_pos visible, mixedOpacity_real, mul_assoc, alone, mul_zero, add_zero,
    add_zero]
  rw [mixedOpacity_real, alone, add_zero] at visible
  exact mul_div_cancel_right₀ _ visible.ne'

variable (part : 0 ≤ opacity ∧ opacity ≤ 1) (part' : 0 ≤ old ∧ old ≤ 1)
include part part'

theorem mixedOpacity_within : old ≤ mixedOpacity opacity old ∧ mixedOpacity opacity old ≤ 1 := by
  rw [mixedOpacity_real]
  constructor
  · nlinarith [mul_nonneg part.1 (sub_nonneg.mpr part'.2)]
  · nlinarith [mul_nonneg (sub_nonneg.mpr part.2) (sub_nonneg.mpr part'.2)]

/-- Where anything is visible, a channel is a mean of the new one and the old one. -/
theorem mixedChannel_within {low high : ℝ} {new : Int} {byte : UInt8}
    (visible : 0 < mixedOpacity opacity old) (first : low ≤ new ∧ new ≤ high)
    (second : low ≤ byte.toNat ∧ byte.toNat ≤ high) :
    low ≤ mixedChannel opacity old new byte ∧ mixedChannel opacity old new byte ≤ high := by
  have rest : 0 ≤ old * (1 - opacity) := mul_nonneg part'.1 (sub_nonneg.mpr part.2)
  rw [mixedChannel_real, if_pos visible, le_div_iff₀ visible, div_le_iff₀ visible,
    mixedOpacity_real, mul_assoc]
  constructor
  · calc low * (opacity + old * (1 - opacity))
        = low * opacity + low * (old * (1 - opacity)) := mul_add _ _ _
      _ ≤ new * opacity + byte.toNat * (old * (1 - opacity)) :=
        add_le_add (mul_le_mul_of_nonneg_right first.1 part.1)
          (mul_le_mul_of_nonneg_right second.1 rest)
  · calc new * opacity + byte.toNat * (old * (1 - opacity))
        ≤ high * opacity + high * (old * (1 - opacity)) :=
        add_le_add (mul_le_mul_of_nonneg_right first.2 part.1)
          (mul_le_mul_of_nonneg_right second.2 rest)
      _ = high * (opacity + old * (1 - opacity)) := (mul_add _ _ _).symm

/-- Where nothing is visible, a channel is black. -/
theorem mixedChannel_invisible (invisible : ¬0 < mixedOpacity opacity old) (new : Int)
    (byte : UInt8) : mixedChannel opacity old new byte = 0 := by
  have rest : 0 ≤ old * (1 - opacity) := mul_nonneg part'.1 (sub_nonneg.mpr part.2)
  have sum := mixedOpacity_real opacity old
  have nothing : opacity = 0 := by linarith [part.1]
  have nothing' : old * (1 - opacity) = 0 := by linarith
  rw [mixedChannel_real, mul_assoc, nothing', nothing, mul_zero, mul_zero, add_zero, zero_div]

variable {new : Int} (range : 0 ≤ new ∧ new ≤ 255)
include range

theorem mixedChannel_byte (byte : UInt8) :
    0 ≤ mixedChannel opacity old new byte ∧ mixedChannel opacity old new byte ≤ 255 := by
  by_cases visible : 0 < mixedOpacity opacity old
  · have first : (0 : ℝ) ≤ new ∧ (new : ℝ) ≤ 255 := by exact_mod_cast range
    exact mixedChannel_within part part' visible first (byte_within byte)
  · rw [mixedChannel_invisible part part' visible]
    exact ⟨le_rfl, by norm_num⟩

theorem channel_between (visible : 0 < mixedOpacity opacity old) (byte : UInt8) :
    min new byte.toNat ≤ (toByte (mixedChannel opacity old new byte)).toNat ∧
      ((toByte (mixedChannel opacity old new byte)).toNat : Int) ≤ max new byte.toNat := by
  have bound := byte.toNat_lt
  obtain ⟨least, greatest⟩ : ((min new byte.toNat : Int) : ℝ) ≤ mixedChannel opacity old new byte ∧
      mixedChannel opacity old new byte ≤ (max new byte.toNat : Int) :=
    mixedChannel_within part part' visible
      ⟨by exact_mod_cast min_le_left _ _, by exact_mod_cast le_max_left _ _⟩
      ⟨by exact_mod_cast min_le_right new (byte.toNat : Int),
        by exact_mod_cast le_max_right new (byte.toNat : Int)⟩
  exact toByte_within (by omega) (by omega) least greatest

end Mixing

/-! ### Pixels -/

/-- A channel that is laid over another one, and what becomes of it. -/
structure Channel where
  new : Int
  old : UInt8
  made : UInt8

def channels (color : Color) (pixel painted : Pixel) : List Channel :=
  [⟨color.red, pixel.red, painted.red⟩, ⟨color.green, pixel.green, painted.green⟩,
    ⟨color.blue, pixel.blue, painted.blue⟩]

section Painting

variable {color : Color} {coverage : ℝ} {pixel : Pixel}

theorem unit_of_byte {n : Int} (range : 0 ≤ n ∧ n ≤ 255) :
    (0 : ℝ) ≤ ofInt n / ofInt 255 ∧ (ofInt n / ofInt 255 : ℝ) ≤ 1 := by
  have number : (0 : ℝ) ≤ n ∧ (n : ℝ) ≤ 255 := by exact_mod_cast range
  have whole : (ofInt 255 : ℝ) = 255 := by simp
  rw [whole]
  exact ⟨div_nonneg number.1 (by norm_num), div_le_one_of_le₀ number.2 (by norm_num)⟩

theorem opacity_within (inRange : color.InRange) (least : 0 ≤ coverage) (greatest : coverage ≤ 1) :
    0 ≤ coverage * (ofInt color.opacity / ofInt 255) ∧
      coverage * (ofInt color.opacity / ofInt 255) ≤ 1 := by
  obtain ⟨lower, upper⟩ := unit_of_byte (inRange.isByte color.opacity (by simp))
  exact ⟨mul_nonneg least lower, mul_le_one₀ greatest lower upper⟩

theorem old_within (byte : UInt8) :
    (0 : ℝ) ≤ ofByte byte / ofInt 255 ∧ (ofByte byte / ofInt 255 : ℝ) ≤ 1 :=
  unit_of_byte ⟨by omega, by have := byte.toNat_lt; omega⟩

theorem mem_channels (inRange : color.InRange) {c : Channel}
    (member : c ∈ channels color pixel (Canvas.paintPixel true color coverage pixel)) :
    (0 ≤ c.new ∧ c.new ≤ 255) ∧
      c.made = toByte (mixedChannel (coverage * (ofInt color.opacity / ofInt 255))
        (ofByte pixel.alpha / ofInt 255) c.new c.old) := by
  obtain ⟨red, green, blue, _⟩ := inRange
  simp only [channels, List.mem_cons, List.not_mem_nil, or_false] at member
  rcases member with rfl | rfl | rfl
  · exact ⟨red, rfl⟩
  · exact ⟨green, rfl⟩
  · exact ⟨blue, rfl⟩

theorem alpha_over (inRange : color.InRange) (least : 0 ≤ coverage) (greatest : coverage ≤ 1)
    (alpha : UInt8) :
    let mixed : ℝ := mixedOpacity (coverage * (ofInt color.opacity / ofInt 255))
      (ofByte alpha / ofInt 255) * ofInt 255
    ((toByte mixed).toNat : Int) = Scalar.nearest mixed ∧ alpha ≤ toByte mixed := by
  intro mixed
  obtain ⟨kept, whole⟩ :=
    mixedOpacity_within (opacity_within inRange least greatest) (old_within alpha)
  have scaled : (ofByte alpha / ofInt 255 : ℝ) * 255 = alpha.toNat := by simp [ofByte]
  have rises : ((alpha.toNat : Int) : ℝ) ≤ mixed := by
    rw [Int.cast_natCast, ← scaled]
    exact mul_le_mul_of_nonneg_right kept (by norm_num)
  have fits : mixed ≤ (255 : Int) :=
    (mul_le_mul_of_nonneg_right whole (by norm_num)).trans_eq (one_mul _)
  have positive : (0 : ℝ) ≤ (alpha.toNat : Int) := by exact_mod_cast Nat.zero_le _
  refine ⟨toByte_eq_nearest (positive.trans rises) (by simpa using fits), ?_⟩
  rw [UInt8.le_iff_toNat_le]
  exact_mod_cast (toByte_within (Int.natCast_nonneg _) le_rfl rises fits).1

theorem full_of_le {byte byte' : UInt8} (grown : byte ≤ byte') (full : byte = 255) :
    byte' = 255 := by
  have least : byte.toNat ≤ byte'.toNat := UInt8.le_iff_toNat_le.mp grown
  have bound := byte'.toNat_lt
  have value : byte.toNat = 255 := congrArg UInt8.toNat full
  exact UInt8.toNat_inj.mp (show byte'.toNat = 255 by omega)

/-- An opaque color that covers all of a pixel leaves nothing of it. -/
theorem paintPixel_full (inRange : color.InRange) (solid : color.transparency = 0) :
    let painted := Canvas.paintPixel true color (1 : ℝ) pixel
    (∀ c ∈ channels color pixel painted, (c.made.toNat : Int) = c.new) ∧
      painted.alpha = 255 := by
  have one : (1 * (ofInt color.opacity / ofInt 255) : ℝ) = 1 := by simp [opacity_of_full solid]
  have all : mixedOpacity (1 * (ofInt color.opacity / ofInt 255) : ℝ)
      (ofByte pixel.alpha / ofInt 255) = 1 := by
    rw [mixedOpacity_real, one]
    ring
  constructor
  · intro c member
    obtain ⟨range, made⟩ := mem_channels inRange member
    rw [made, mixedChannel_alone (one_pos.trans_eq all.symm) (by rw [one, sub_self, mul_zero])]
    exact toByte_intCast range
  · have whole : mixedOpacity (1 * (ofInt color.opacity / ofInt 255) : ℝ)
        (ofByte pixel.alpha / ofInt 255) * ofInt 255 = (255 : Int) := by rw [all, one_mul]; rfl
    have rounded := toByte_intCast (n := 255) (by decide)
    rw [← whole] at rounded
    exact UInt8.toNat_inj.mp (Int.natCast_inj.mp rounded)

end Painting

/-- A color laid over a pixel, in exact arithmetic: each channel is rounded, and then a byte that
lies between the new and the old one; the opacity does not fall, and stays whole; and an opaque
color that covers all of the pixel leaves nothing of it. -/
theorem paintPixel_between {color : Color} {coverage : ℝ} (inRange : color.InRange)
    (least : 0 ≤ coverage) (greatest : coverage ≤ 1) (pixel : Pixel) :
    let opacity : ℝ := coverage * (ofInt color.opacity / ofInt 255)
    let old : ℝ := ofByte pixel.alpha / ofInt 255
    let painted := Canvas.paintPixel true color coverage pixel
    (∀ c ∈ channels color pixel painted,
      (c.made.toNat : Int) = Scalar.nearest (mixedChannel opacity old c.new c.old) ∧
      (0 < mixedOpacity opacity old →
        (min c.new c.old.toNat ≤ c.made.toNat ∧ (c.made.toNat : Int) ≤ max c.new c.old.toNat) ∧
        (pixel.alpha = 0 → (c.made.toNat : Int) = c.new))) ∧
    (painted.alpha.toNat : Int) = Scalar.nearest (mixedOpacity opacity old * ofInt 255) ∧
    pixel.alpha ≤ painted.alpha ∧ (pixel.alpha = 255 → painted.alpha = 255) ∧
    (coverage = 1 → color.transparency = 0 →
      (∀ c ∈ channels color pixel painted, (c.made.toNat : Int) = c.new) ∧
        painted.alpha = 255) := by
  intro opacity old painted
  have part : 0 ≤ opacity ∧ opacity ≤ 1 := opacity_within inRange least greatest
  have part' : 0 ≤ old ∧ old ≤ 1 := old_within pixel.alpha
  obtain ⟨rounded, grown⟩ := alpha_over inRange least greatest pixel.alpha
  refine ⟨?_, rounded, grown, ?_, ?_⟩
  · intro c member
    obtain ⟨range, made⟩ := mem_channels inRange member
    obtain ⟨lower, upper⟩ := mixedChannel_byte part part' range c.old
    rw [made]
    refine ⟨toByte_eq_nearest lower upper, fun visible => ⟨?_, fun transparent => ?_⟩⟩
    · exact channel_between part part' range visible c.old
    · have nothing : old = 0 := by simp [old, ofByte, transparent]
      rw [mixedChannel_alone visible (by rw [nothing, zero_mul])]
      exact toByte_intCast range
  · exact full_of_le grown
  · intro full solid
    subst full
    exact paintPixel_full inRange solid

/-- A red that covers half of a blue pixel: a half is rounded to the even number. -/
theorem paintPixel_between_half :
    let painted := Canvas.paintPixel true ⟨255, 0, 0, 0⟩ (1 / 2 : ℝ) ⟨0, 0, 255, 255⟩
    painted.red.toNat = 128 ∧ painted.blue.toNat = 128 ∧ painted.alpha = 255 := by
  intro painted
  have inRange : Color.InRange ⟨255, 0, 0, 0⟩ := by simp [Color.InRange]
  have part : (0 : ℝ) ≤ 1 / 2 ∧ (1 / 2 : ℝ) ≤ 1 := by norm_num
  obtain ⟨made, _, _, whole, _⟩ := paintPixel_between inRange part.1 part.2 ⟨0, 0, 255, 255⟩
  have floor : ⌊(255 / 2 : ℝ)⌋ = 127 := Int.floor_eq_iff.mpr (by norm_num)
  have half : nearestWhole (255 / 2) = 128 := by
    have rest : Int.fract (255 / 2 : ℝ) = 1 / 2 := by rw [Int.fract, floor]; norm_num
    rw [nearestWhole, rest, floor, if_neg (by simp; decide)]
    rfl
  have mixed (new : Int) (byte : UInt8) (sum : new + byte.toNat = 255) :
      mixedChannel (1 / 2 * (ofInt (Color.opacity ⟨255, 0, 0, 0⟩) / ofInt 255))
        (ofByte 255 / ofInt 255 : ℝ) new byte = 255 / 2 := by
    have sum' : (new : ℝ) + byte.toNat = 255 := by exact_mod_cast sum
    have whole : (ofInt 255 / ofInt 255 : ℝ) = 1 := by simp
    rw [mixedChannel_real, mixedOpacity_real, opacity_of_full rfl,
      show (ofByte 255 : ℝ) = ofInt 255 from rfl, whole]
    norm_num
    linarith
  refine ⟨?_, ?_, whole rfl⟩
  · have red := (made ⟨255, 0, painted.red⟩ (by simp [channels, painted])).1
    rw [mixed 255 0 rfl] at red
    exact Int.natCast_inj.mp (red.trans half)
  · have blue := (made ⟨0, 255, painted.blue⟩ (by simp [channels, painted])).1
    rw [mixed 0 255 rfl] at blue
    exact Int.natCast_inj.mp (blue.trans half)

end Pixel

end Vignette
