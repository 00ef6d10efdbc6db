import Vignette.Text.Ranges

namespace Vignette.Text

/-! Blank characters: the separators of Unicode together with the control characters that end
lines, paragraphs and records. -/

def blankRanges : List (Nat × Nat) :=
  [(9, 13), (28, 32), (0x85, 0x85), (0xA0, 0xA0), (0x1680, 0x1680), (0x2000, 0x200A),
   (0x2028, 0x2029), (0x202F, 0x202F), (0x205F, 0x205F), (0x3000, 0x3000)]

/-- Whether a character counts as white space in every text that this library reads. -/
def isBlank (c : Char) : Bool := inRanges blankRanges c.toNat

end Vignette.Text
