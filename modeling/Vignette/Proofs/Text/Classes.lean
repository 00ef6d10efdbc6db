import Vignette.Text.Blank
import Vignette.Text.Digit
import Vignette.Text.Word

namespace Vignette.Text

/-! Blanks have no character in common with digits, with ASCII letters or with the characters of
words, nor have digits with letters. -/

theorem ne_of_class {p : Char → Bool} {c d : Char} (inside : p c = true) (outside : p d = false) :
    c ≠ d := by
  intro same
  rw [same, outside] at inside
  contradiction

theorem toNat_of_isAlpha {c : Char} (letter : c.isAlpha = true) :
    65 ≤ c.toNat ∧ c.toNat ≤ 122 := by
  have ranges : (decide (65 ≤ c.val ∧ c.val ≤ 90) ||
      (decide (97 ≤ c.val) && decide (c.val ≤ 122))) = true := letter
  simp only [Bool.or_eq_true, Bool.and_eq_true, decide_eq_true_eq, UInt32.le_iff_toNat_le,
    Char.toNat_val, UInt32.reduceToNat] at ranges
  omega

theorem isAlpha_of_isBlank {c : Char} (blank : isBlank c = true) : c.isAlpha = false := by
  obtain ⟨range, member, first, last⟩ := range_of_inRanges blank
  have apart : ∀ range ∈ blankRanges, range.2 < 65 ∨ 122 < range.1 := by decide
  apply Bool.eq_false_iff.mpr
  intro letter
  have bounds := toNat_of_isAlpha letter
  have := apart range member
  omega

theorem isAlpha_of_isDigit {c : Char} (digit : isDigit c = true) : c.isAlpha = false := by
  obtain ⟨first, member, low, high⟩ := row_of_isDigit digit
  have apart : ∀ first ∈ zeroPoints, first + 10 ≤ 65 ∨ 122 < first := by decide
  apply Bool.eq_false_iff.mpr
  intro letter
  have bounds := toNat_of_isAlpha letter
  have := apart first member
  omega

theorem isBlank_of_isDigit {c : Char} (digit : isDigit c = true) : isBlank c = false := by
  obtain ⟨digits, row, low, high⟩ := row_of_isDigit digit
  have apart : ∀ first ∈ zeroPoints, ∀ range ∈ blankRanges,
      range.2 < first ∨ first + 10 ≤ range.1 := by decide
  apply Bool.eq_false_iff.mpr
  intro blank
  obtain ⟨range, member, first, last⟩ := range_of_inRanges blank
  have := apart digits row range member
  omega

theorem isBlank_of_isAlpha {c : Char} (letter : c.isAlpha = true) : isBlank c = false := by
  apply Bool.eq_false_iff.mpr
  intro blank
  rw [isAlpha_of_isBlank blank] at letter
  contradiction

theorem isDigit_of_isAlpha {c : Char} (letter : c.isAlpha = true) : isDigit c = false := by
  apply Bool.eq_false_iff.mpr
  intro digit
  rw [isAlpha_of_isDigit digit] at letter
  contradiction

theorem isDigit_of_isBlank {c : Char} (blank : isBlank c = true) : isDigit c = false := by
  apply Bool.eq_false_iff.mpr
  intro digit
  rw [isBlank_of_isDigit digit] at blank
  contradiction

theorem isBlank_of_isWord {c : Char} (word : isWord c = true) : isBlank c = false := by
  obtain ⟨range, member, first, last⟩ := range_of_inRanges word
  have apart : ∀ range ∈ wordRanges, ∀ blanks ∈ blankRanges,
      range.2 < blanks.1 ∨ blanks.2 < range.1 := by decide +kernel
  apply Bool.eq_false_iff.mpr
  intro blank
  obtain ⟨blanks, among, low, high⟩ := range_of_inRanges blank
  have := apart range member blanks among
  omega

end Vignette.Text
