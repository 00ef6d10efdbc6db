import Vignette.Proofs.Path.Passes

namespace Vignette.Path

/-! Path data with single spaces between its tokens: how glyphs are written, and that spacing a
text that is spaced already changes nothing. -/

open Text (isBlank isDigit)

/-- A glyph with a space in front of it if it opens a token. -/
def Glyph.text (glyph : Glyph) : List Char :=
  if glyph.opens then [' ', glyph.char] else [glyph.char]

/-- Glyphs with single spaces between their tokens. -/
def written : List Glyph → List Char
  | [] => []
  | first :: rest => first.char :: rest.flatMap Glyph.text

theorem joinBlanks_blank {c : Char} (rest : List Char) (blank : isBlank c = true) :
    joinBlanks (c :: rest) = ' ' :: joinBlanks (rest.dropWhile isBlank) := by
  have found : matchBlanks (c :: rest) = (rest.takeWhile isBlank).length + 1 := by
    simp [matchBlanks, blank]
  have dropped : rest.drop (rest.takeWhile isBlank).length = rest.dropWhile isBlank := by
    conv => lhs; arg 2; rw [← List.takeWhile_append_dropWhile (p := isBlank) (l := rest)]
    exact List.drop_left
  rw [joinBlanks, Text.replaceMatches_of_matched found, dropped]
  rfl

theorem joinBlanks_solid {c : Char} (rest : List Char) (solid : isBlank c = false) :
    joinBlanks (c :: rest) = c :: joinBlanks rest :=
  Text.replaceMatches_of_unmatched (by simp [matchBlanks, solid])

/-- Joining blanks leaves a single one in front of a character that has any, and at the end. -/
theorem joinBlanks_eq (cs : List Char) :
    ∃ tail, (tail = [] ∨ tail = [' ']) ∧
      joinBlanks cs = (blankGlyphs false cs).flatMap Glyph.text ++ tail := by
  induction cs with
  | nil => exact ⟨[], .inl rfl, rfl⟩
  | cons c rest ih =>
      obtain ⟨tail, single, same⟩ := ih
      by_cases blank : isBlank c = true
      · cases rest with
        | nil =>
            refine ⟨[' '], .inr rfl, ?_⟩
            rw [joinBlanks_blank _ blank]
            simp [blankGlyphs, blank, joinBlanks]
        | cons d rest =>
            refine ⟨tail, single, ?_⟩
            by_cases more : isBlank d = true
            · rw [joinBlanks_blank _ blank, List.dropWhile_cons_of_pos more,
                ← joinBlanks_blank _ more, same]
              simp [blankGlyphs, blank, more]
            · rw [Bool.not_eq_true] at more
              rw [joinBlanks_blank _ blank, List.dropWhile_cons_of_neg (by simp [more]), same]
              simp [blankGlyphs, blank, more, Glyph.text]
      · rw [Bool.not_eq_true] at blank
        refine ⟨tail, single, ?_⟩
        rw [joinBlanks_solid _ blank, same]
        simp [blankGlyphs, blank, Glyph.text]

theorem isBlank_of_mem_blankGlyphs {gap : Bool} {cs : List Char} {glyph : Glyph}
    (member : glyph ∈ blankGlyphs gap cs) : isBlank glyph.char = false := by
  induction cs generalizing gap with
  | nil => simp [blankGlyphs] at member
  | cons c rest ih =>
      rw [blankGlyphs] at member
      split at member
      · exact ih member
      · next solid =>
          rcases List.mem_cons.mp member with rfl | later
          · exact Bool.not_eq_true _ ▸ solid
          · exact ih later

theorem getLast?_text (glyph : Glyph) : glyph.text.getLast? = some glyph.char := by
  cases opens : glyph.opens <;> simp [Glyph.text, opens]

theorem written_eq_flatMap (first : Glyph) (rest : List Glyph) :
    written (first :: rest) = ((⟨first.char, false⟩ :: rest : List Glyph)).flatMap Glyph.text := rfl

/-- Trimming takes away the space in front of the first glyph and those behind the last. -/
theorem trim_text {glyphs : List Glyph} {tail : List Char} (single : tail = [] ∨ tail = [' '])
    (solid : ∀ glyph ∈ glyphs, isBlank glyph.char = false) :
    Text.trim (glyphs.flatMap Glyph.text ++ tail) = written glyphs := by
  have blanks : ∀ c ∈ tail, isBlank c = true := by
    rcases single with rfl | rfl
    · simp
    · intro c member
      rw [List.mem_singleton.mp member]
      decide
  cases glyphs with
  | nil => rcases single with rfl | rfl <;> rfl
  | cons first rest =>
      have firstSolid := solid first List.mem_cons_self
      have led : Text.trimLeft ((first :: rest).flatMap Glyph.text ++ tail) =
          written (first :: rest) ++ tail := by
        have space : isBlank ' ' = true := by decide
        cases opens : first.opens
        · simp [Glyph.text, opens, written, Text.trimLeft_of_not_blank firstSolid]
        · simp [Glyph.text, opens, written, Text.trimLeft_of_blank space,
            Text.trimLeft_of_not_blank firstSolid]
      rw [Text.trim, led, Text.trimRight_append_blanks _ blanks]
      apply Text.trimRight_of_getLast?
      intro c last
      rw [written_eq_flatMap, getLast?_flatMap_of getLast?_text] at last
      rcases List.mem_map.mp (List.mem_of_getLast? last) with ⟨glyph, member, rfl⟩
      rcases List.mem_cons.mp member with rfl | later
      · exact firstSolid
      · exact solid glyph (List.mem_cons_of_mem _ later)

theorem written_blankGlyphs (gap : Bool) (cs : List Char) :
    written (blankGlyphs gap cs) = written (blankGlyphs true cs) := by
  cases cs with
  | nil => rfl
  | cons c rest =>
      rw [blankGlyphs, blankGlyphs]
      split <;> rfl

theorem normal_eq (cs : List Char) : normal cs = written (glyphs .nothing cs) := by
  obtain ⟨tail, single, same⟩ := joinBlanks_eq (parted cs)
  rw [normal, same, trim_text single fun glyph => isBlank_of_mem_blankGlyphs,
    written_blankGlyphs, blankGlyphs_parted]

/-- The tokens that glyphs make up; the first continues what stands to the left of them. -/
def pieces : List Glyph → List (List Char)
  | [] => [[]]
  | glyph :: rest =>
    if glyph.opens then [] :: Text.attach glyph.char (pieces rest)
    else Text.attach glyph.char (pieces rest)

/-- The tokens that glyphs make up. -/
def group : List Glyph → List (List Char)
  | [] => []
  | first :: rest => Text.attach first.char (pieces rest)

theorem splitAtEach_text {glyphs : List Glyph} (solid : ∀ glyph ∈ glyphs, glyph.char ≠ ' ') :
    Text.splitAtEach (· == ' ') (glyphs.flatMap Glyph.text) = pieces glyphs := by
  induction glyphs with
  | nil => rfl
  | cons first rest ih =>
      have later := ih fun glyph member => solid glyph (List.mem_cons_of_mem _ member)
      have here := solid first List.mem_cons_self
      cases opens : first.opens <;>
        simp [Glyph.text, opens, Text.splitAtEach, here, later, pieces]

/-- The tokens of path data are made up by its glyphs. -/
theorem cut_eq (cs : List Char) : cut cs = group (glyphs .nothing cs) := by
  have solid : ∀ glyph ∈ glyphs .nothing cs, glyph.char ≠ ' ' := by
    intro glyph member space
    have separator := isSeparator_of_mem_glyphs member
    rw [space] at separator
    exact absurd separator (by decide)
  rw [cut, normal_eq]
  cases found : glyphs .nothing cs with
  | nil => rfl
  | cons first rest =>
      rw [found] at solid
      have here := solid first List.mem_cons_self
      have later := splitAtEach_text fun glyph member => solid glyph (List.mem_cons_of_mem _ member)
      simp [written, group, Text.splitAtEach, here, later]

theorem glyphs_space (left : Left) (cs : List Char) :
    glyphs left (' ' :: cs) = glyphs .nothing cs := by
  have separator : isSeparator ' ' = true := by decide
  rw [glyphs, if_pos separator]

theorem glyphs_nothing (cs : List Char) :
    glyphs .nothing cs = [] ∨ ∃ c rest, glyphs .nothing cs = ⟨c, true⟩ :: rest := by
  induction cs with
  | nil => exact .inl rfl
  | cons c rest ih =>
      rw [glyphs]
      split
      · exact ih
      · exact .inr ⟨c, _, rfl⟩

/-- Behind a gap it does not matter what stood before it. -/
theorem glyphs_text_nothing (left : Left) (cs : List Char) :
    glyphs left ((glyphs .nothing cs).flatMap Glyph.text) =
      glyphs .nothing ((glyphs .nothing cs).flatMap Glyph.text) := by
  rcases glyphs_nothing cs with none | ⟨c, rest, some⟩
  · rw [none]
    rfl
  · rw [some]
    exact (glyphs_space left _).trans (glyphs_space .nothing _).symm

theorem digitFollows_text (cs : List Char) :
    digitFollows ((glyphs .point cs).flatMap Glyph.text) = digitFollows cs := by
  have space : isDigit ' ' = false := by decide
  cases cs with
  | nil => rfl
  | cons c rest =>
      rw [glyphs]
      split
      · next separator =>
          rw [digitFollows.eq_1 c, isDigit_of_isSeparator separator]
          rcases glyphs_nothing rest with none | ⟨d, others, some⟩
          · rw [none]
            rfl
          · rw [some]
            exact space
      · cases letter : c.isAlpha
        · simp [Left.opens, letter, Glyph.text, digitFollows]
        · simp [Left.opens, letter, Glyph.text, digitFollows, space,
            Text.isDigit_of_isAlpha letter]

theorem Left.opens_congr {left : Left} {c : Char} {rest others : List Char}
    (same : c = '.' → digitFollows rest = digitFollows others) :
    left.opens c rest = left.opens c others := by
  cases left with
  | fraction =>
      by_cases point : c = '.'
      · simp only [Left.opens, same point]
      · simp [Left.opens, beq_false_of_ne point]
  | _ => rfl

/-- A character that opens a token is read as if nothing stood in front of it. -/
theorem Left.after_of_opens {left : Left} {c : Char} {rest : List Char}
    (opens : left.opens c rest = true) : left.after c = Left.nothing.after c := by
  unfold Left.after
  by_cases digit : isDigit c = true
  · have point : c ≠ '.' := Text.ne_of_class digit (by decide)
    have minus : c ≠ '-' := Text.ne_of_class digit (by decide)
    cases left <;> simp_all [Left.opens, Text.isAlpha_of_isDigit digit]
  · simp [digit]

theorem glyphs_text (left : Left) (cs : List Char) :
    glyphs left ((glyphs left cs).flatMap Glyph.text) = glyphs left cs := by
  induction cs generalizing left with
  | nil => rfl
  | cons c rest ih =>
      by_cases separator : isSeparator c = true
      · rw [glyphs, if_pos separator, glyphs_text_nothing, ih]
      · rw [glyphs, if_neg separator]
        cases opens : left.opens c rest with
        | true =>
            have read : glyphs left ((⟨c, true⟩ :: glyphs (left.after c) rest).flatMap Glyph.text) =
                glyphs .nothing (c :: (glyphs (left.after c) rest).flatMap Glyph.text) :=
              glyphs_space left _
            rw [read, glyphs, if_neg separator, ← Left.after_of_opens opens, ih]
            rfl
        | false =>
            have read : ((⟨c, false⟩ :: glyphs (left.after c) rest).flatMap Glyph.text) =
                c :: (glyphs (left.after c) rest).flatMap Glyph.text := rfl
            have same : left.opens c ((glyphs (left.after c) rest).flatMap Glyph.text) = false := by
              rw [← opens]
              apply Left.opens_congr
              intro point
              cases point
              exact digitFollows_text rest
            rw [read, glyphs, if_neg separator, same, ih]

theorem glyphs_written (cs : List Char) :
    glyphs .nothing (written (glyphs .nothing cs)) = glyphs .nothing cs := by
  rcases glyphs_nothing cs with none | ⟨c, rest, some⟩
  · rw [none]
    rfl
  · have same := glyphs_text .nothing cs
    rw [some] at same ⊢
    exact (glyphs_space .nothing _).symm.trans same

/-- Spacing a text again changes nothing. -/
theorem normal_normal (cs : List Char) : normal (normal cs) = normal cs := by
  rw [normal_eq cs, normal_eq, glyphs_written]

end Vignette.Path
