import Vignette.Proofs.Color.Range
import Vignette.Proofs.Numeral
import Vignette.Proofs.Text.Lowercase

namespace Vignette

/-! Colors as whole numbers: every color in range is read back from its packed number, given as a
number or written in decimal. -/

namespace Color

/-! ### Packing -/

/-- Joining the bits of a number below a power of two to a multiple of that power adds it. -/
theorem joinBits_eq_add {high low : Int} (bits : Nat) (high_nonneg : 0 ≤ high)
    (multiple : 2 ^ bits ∣ high) (low_nonneg : 0 ≤ low) (small : low < 2 ^ bits) :
    joinBits high low = high + low := by
  lift high to Nat using high_nonneg
  lift low to Nat using low_nonneg
  obtain ⟨factor, rfl⟩ : 2 ^ bits ∣ high := by exact_mod_cast multiple
  have below : low < 2 ^ bits := by exact_mod_cast small
  have joined : joinBits (2 ^ bits * factor : Nat) low = ((2 ^ bits * factor ||| low : Nat) : Int) := rfl
  rw [joined, ← Nat.two_pow_add_eq_or_of_lt below, Nat.cast_add]

theorem InRange.handle_eq {c : Color} (inRange : c.InRange) :
    c.handle = c.transparency * 16777216 + c.red * 65536 + c.green * 256 + c.blue := by
  obtain ⟨red, green, blue, transparency⟩ := inRange
  have first : joinBits (c.transparency * 16777216) (c.red * 65536) =
      c.transparency * 16777216 + c.red * 65536 :=
    joinBits_eq_add 24 (by omega) (by omega) (by omega) (by omega)
  have second : joinBits (c.transparency * 16777216 + c.red * 65536) (c.green * 256) =
      c.transparency * 16777216 + c.red * 65536 + c.green * 256 :=
    joinBits_eq_add 16 (by omega) (by omega) (by omega) (by omega)
  rw [handle, first, second]
  exact joinBits_eq_add 8 (by omega) (by omega) (by omega) (by omega)

theorem InRange.ofHandle_handle {c : Color} (inRange : c.InRange) : ofHandle c.handle = c := by
  rw [inRange.handle_eq]
  obtain ⟨red, green, blue, transparency⟩ := inRange
  obtain ⟨r, g, b, a⟩ := c
  simp only [ofHandle, Color.mk.injEq] at *
  omega

theorem handle_ofHandle (n : Int) : (ofHandle n).handle = n % 2147483648 := by
  rw [(inRange_ofHandle n).handle_eq]
  simp only [ofHandle]
  omega

theorem InRange.handle_bounds {c : Color} (inRange : c.InRange) :
    0 ≤ c.handle ∧ c.handle < 2147483648 := by
  have packed := handle_ofHandle c.handle
  rw [inRange.ofHandle_handle] at packed
  omega

/-! ### Reading a number in decimal -/

section Decimal

variable {text : List Char}

theorem leadingWhole?_digits (nonempty : text ≠ []) (digits : AllDigits text)
    (short : text.length ≤ digitLimit) :
    leadingWhole? text = .ok (some (digitsValue text : Int)) := by
  have signless : takeSign text = (false, text) := by
    unfold takeSign
    split
    · exact absurd (digits '-' List.mem_cons_self) (by decide)
    · exact absurd (digits '+' List.mem_cons_self) (by decide)
    · rfl
  have whole : text.takeWhile Text.isDigit = text := by
    have all : (text ++ []).takeWhile Text.isDigit = text ++ [] :=
      List.takeWhile_append_of_pos digits
    rwa [List.append_nil] at all
  rw [leadingWhole?, signless]
  dsimp only
  rw [whole, if_neg (by simpa using nonempty), wholeOfDigits, if_neg (by omega)]
  rfl

theorem ne_of_digits (digits : AllDigits text) {word : List Char}
    (other : word.all Text.isDigit = false) : text ≠ word := by
  rintro rfl
  rw [List.all_eq_true.mpr digits] at other
  contradiction

theorem lookup_digits (digits : AllDigits text) :
    namedColors.lookup (String.ofList text) = none := by
  have names : ∀ entry ∈ namedColors, entry.1.toList.all Text.isDigit = false := by decide +kernel
  rw [List.lookup_eq_none_iff]
  intro entry member
  rw [bne_iff_ne]
  intro same
  apply ne_of_digits digits (names entry member)
  rw [← same, String.toList_ofList]

/-- Digits alone are no word, no other kind of color and in no need of trimming. -/
theorem ofText_digits (nonempty : text ≠ []) (digits : AllDigits text)
    (small : ∀ c ∈ text, Text.IsSmall c) (short : text.length ≤ digitLimit) :
    ofText (String.ofList text) = .ok (ofHandle (digitsValue text)) := by
  have trimmed : Text.trim text = text :=
    Text.trim_of_solid fun c member => Text.isBlank_of_isDigit (digits c member)
  have lowered : Text.lowerChars text = text := Text.lowerAfter_of_isSmall small []
  have unhex : ofHex? text = none := by
    unfold ofHex?
    split
    · exact absurd (digits '#' List.mem_cons_self) (by decide)
    · rfl
  have unfunctional : "rgb".toList.isPrefixOf text = false := by
    apply Bool.eq_false_iff.mpr
    intro begins
    obtain ⟨behind, rfl⟩ := List.isPrefixOf_iff_prefix.mp begins
    exact absurd (digits 'r' (by simp)) (by decide)
  have unworded : ¬ (text = "none".toList ∨ text = "transparent".toList) :=
    not_or.mpr ⟨ne_of_digits digits (by decide), ne_of_digits digits (by decide)⟩
  rw [ofText, String.toList_ofList, trimmed, lowered, if_neg unworded, unhex]
  dsimp only
  rw [lookup_digits digits]
  dsimp only
  rw [unfunctional, if_neg Bool.false_ne_true, leadingWhole?_digits nonempty digits short]
  rfl

end Decimal

theorem ofText_decimal {n : Nat} (bounded : n < 2147483648) :
    ofText (toString n) = .ok (ofHandle n) := by
  have nonempty : Nat.toDigits 10 n ≠ [] := Nat.toDigits_ne_nil
  have short : (Nat.toDigits 10 n).length ≤ 10 :=
    (Nat.length_toDigits_le_iff (by decide) (by decide)).mpr (by omega)
  have read := ofText_digits nonempty (decimal_forall (by decide) n) (decimal_forall (by decide) n)
    (short.trans (by decide))
  rw [digitsValue_decimal] at read
  rw [Nat.toString_eq_repr, Nat.repr_eq_ofList_toDigits]
  exact read

end Color

/-- Colors that are read, from a text or from a packed number, are in range, and every color in
range is read back from its packed number and from that number in decimal. Of a packed number the
lowest thirty-one bits count. -/
theorem ColorSource.resolve_handle :
    (∀ given color, (ColorSource.text given).resolve = .ok color → color.InRange) ∧
    (∀ number, ∃ color, (ColorSource.handle number).resolve = .ok color ∧ color.InRange ∧
      color.handle = number % 2 ^ 31) ∧
    ∀ color : Color, color.InRange → (ColorSource.handle color.handle).resolve = .ok color ∧
      (ColorSource.text (toString color.handle)).resolve = .ok color := by
  refine ⟨?_, ?_, ?_⟩
  · intro given color read
    exact Color.inRange_ofText read
  · intro number
    exact ⟨.ofHandle number, rfl, Color.inRange_ofHandle number, Color.handle_ofHandle number⟩
  · intro color inRange
    have back := inRange.ofHandle_handle
    obtain ⟨positive, bounded⟩ := inRange.handle_bounds
    generalize color.handle = packed at back positive bounded
    lift packed to Nat using positive
    have read := Color.ofText_decimal (Int.ofNat_lt.mp bounded)
    rw [back] at read
    exact ⟨congrArg Except.ok back, read⟩

/-- A translucent color by its base-sixteen digits and by its packed number in decimal. -/
theorem ColorSource.resolve_handle_green :
    (ColorSource.text "#0ad2000a").resolve = .ok ⟨10, 210, 0, 122⟩ ∧
    (ColorSource.text (toString (⟨10, 210, 0, 122⟩ : Color).handle)).resolve =
      .ok ⟨10, 210, 0, 122⟩ := by
  have read : (ColorSource.text "#0ad2000a").resolve = .ok ⟨10, 210, 0, 122⟩ := by rfl
  obtain ⟨ranges, _, back⟩ := ColorSource.resolve_handle
  exact ⟨read, (back _ (ranges _ _ read)).2⟩

end Vignette
