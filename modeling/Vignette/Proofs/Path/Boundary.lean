import Vignette.Path.Token
import Vignette.Proofs.Text.Classes

namespace Vignette.Path

/-! Where path data is parted. The five passes over the text come to one rule: whether a character
opens a token depends on what stands directly to its left and, for a point, on whether a digit
follows. -/

open Text (isBlank isDigit)

theorem isSeparator_of_isAlpha {c : Char} (letter : c.isAlpha = true) : isSeparator c = false := by
  have comma : c ≠ ',' := Text.ne_of_class letter (by decide)
  simpa [isSeparator, comma] using Text.isBlank_of_isAlpha letter

theorem isDigit_of_isSeparator {c : Char} (separator : isSeparator c = true) :
    isDigit c = false := by
  rcases Bool.or_eq_true_iff.mp separator with comma | blank
  · rw [beq_iff_eq.mp comma]
    decide
  · exact Text.isDigit_of_isBlank blank

theorem isSeparator_of_isDigit {c : Char} (digit : isDigit c = true) : isSeparator c = false := by
  apply Bool.eq_false_iff.mpr
  intro separator
  rw [isDigit_of_isSeparator separator] at digit
  contradiction

theorem isBlank_of_isSeparator {c : Char} (solid : isSeparator c = false) :
    isBlank c = false := (Bool.or_eq_false_iff.mp solid).2

def digitFollows : List Char → Bool
  | c :: _ => isDigit c
  | [] => false

/-- Path data without its separators. -/
def kept (cs : List Char) : List Char := cs.filter fun c => !isSeparator c

@[simp] theorem kept_append (front back : List Char) : kept (front ++ back) = kept front ++ kept back :=
  List.filter_append ..

@[simp] theorem kept_nil : kept [] = [] := rfl

theorem kept_solid {c : Char} (rest : List Char) (solid : isSeparator c = false) :
    kept (c :: rest) = c :: kept rest := List.filter_cons_of_pos (by simp [solid])

theorem kept_separator {c : Char} (rest : List Char) (separator : isSeparator c = true) :
    kept (c :: rest) = kept rest := List.filter_cons_of_neg (by simp [separator])

/-- What stands directly to the left of a character. -/
inductive Left where
  /-- Nothing: the beginning, or a separator. -/
  | nothing
  | letter
  /-- A digit that belongs to no fraction. -/
  | digit
  | point
  /-- A digit in a run of digits behind a point. -/
  | fraction
  | other
deriving DecidableEq, Repr

namespace Left

def after (left : Left) (c : Char) : Left :=
  if isSeparator c then .nothing
  else if c.isAlpha then .letter
  else if c = '.' then .point
  else if isDigit c then
    match left with
    | .point | .fraction => .fraction
    | _ => .digit
  else .other

/-- Whether a character, which is no separator, opens a token. -/
def opens (left : Left) (c : Char) (rest : List Char) : Bool :=
  match left with
  | .nothing | .letter => true
  | .digit => c.isAlpha || c == '-'
  | .fraction => c.isAlpha || c == '-' || (c == '.' && digitFollows rest)
  | .point | .other => c.isAlpha

/-- Whether the text has a blank in front of the next character anyway. -/
def gap : Left → Bool
  | .nothing | .letter => true
  | _ => false

def behindDigit : Left → Bool
  | .digit | .fraction => true
  | _ => false

/-- Whether a run of fractions goes on. -/
def inside (left : Left) (cs : List Char) : Bool :=
  match left with
  | .fraction => true
  | .point => digitFollows cs
  | _ => false

theorem opens_of_gap {left : Left} {c : Char} {rest : List Char} (gap : left.gap = true) :
    left.opens c rest = true := by
  cases left <;> first | rfl | contradiction

theorem gap_after {left : Left} {c : Char} (separator : isSeparator c = false)
    (letter : c.isAlpha = false) : (left.after c).gap = false := by
  unfold after
  rw [if_neg (by simp [separator]), if_neg (by simp [letter])]
  split
  · rfl
  · split
    · cases left <;> rfl
    · rfl

end Left

/-- A character that is no separator, and whether it opens a token. -/
structure Glyph where
  char : Char
  opens : Bool
deriving DecidableEq, Repr

/-- The glyphs of path data. -/
def glyphs (left : Left) : List Char → List Glyph
  | [] => []
  | c :: rest =>
    if isSeparator c then glyphs .nothing rest
    else ⟨c, left.opens c rest⟩ :: glyphs (left.after c) rest

theorem map_char_glyphs (left : Left) (cs : List Char) :
    (glyphs left cs).map Glyph.char = kept cs := by
  induction cs generalizing left with
  | nil => rfl
  | cons c rest ih =>
      by_cases separator : isSeparator c = true
      · rw [glyphs, if_pos separator, kept_separator rest separator, ih]
      · rw [glyphs, if_neg separator, kept_solid rest (Bool.not_eq_true _ ▸ separator),
          List.map_cons, ih]

theorem isSeparator_of_mem_glyphs {left : Left} {cs : List Char} {glyph : Glyph}
    (member : glyph ∈ glyphs left cs) : isSeparator glyph.char = false := by
  have char : glyph.char ∈ kept cs := by
    rw [← map_char_glyphs left cs]
    exact List.mem_map_of_mem member
  simpa using (List.mem_filter.mp char).2

/-- The glyphs of a text in which blanks alone separate: those behind a blank open a token. -/
def blankGlyphs (gap : Bool) : List Char → List Glyph
  | [] => []
  | c :: rest => if isBlank c then blankGlyphs true rest else ⟨c, gap⟩ :: blankGlyphs false rest

end Vignette.Path
