import Vignette.Proofs.Path.Boundary

namespace Vignette.Path

/-! The passes over path data, each as one walk from left to right, and what they come to together:
blanks in front of the characters that open a token. -/

open Text (isBlank isDigit)

/-- The pass over minuses, told whether a digit stands to the left. -/
def minusPass (behindDigit : Bool) : List Char → List Char
  | [] => []
  | c :: rest =>
    (if behindDigit && c == '-' then [' ', '-'] else [c]) ++ minusPass (isDigit c) rest

def letterPass (cs : List Char) : List Char :=
  cs.flatMap fun c => if c.isAlpha then [' ', c, ' '] else [c]

/-- The pass over fractions, told whether a run of them continues. -/
def fractionPass (inside : Bool) : List Char → List Char
  | [] => []
  | c :: rest =>
    if c = '.' then
      if digitFollows rest then
        (if inside then [' ', '.'] else ['.']) ++ fractionPass true rest
      else '.' :: fractionPass false rest
    else c :: fractionPass (inside && isDigit c) rest

theorem partMinuses_cons_cons {c d : Char} {rest : List Char}
    (unmatched : (isDigit c && d == '-') = false) :
    partMinuses (c :: d :: rest) = c :: partMinuses (d :: rest) := by
  apply Text.replaceMatches_of_unmatched
  unfold matchDigitMinus
  split
  · simp_all
  · rfl

theorem partMinuses_digit_minus {c : Char} {rest : List Char} (digit : isDigit c = true) :
    partMinuses (c :: '-' :: rest) = c :: ' ' :: '-' :: partMinuses rest := by
  have found : matchDigitMinus (c :: '-' :: rest) = 1 + 1 := by simp [matchDigitMinus, digit]
  exact Text.replaceMatches_of_matched found

theorem partMinuses_eq (cs : List Char) : partMinuses cs = minusPass false cs := by
  match cs with
  | [] => rfl
  | [c] => simp [partMinuses, Text.replaceMatches, Text.replaceFrom, matchDigitMinus, minusPass]
  | c :: d :: rest =>
      by_cases found : (isDigit c && d == '-') = true
      · rw [Bool.and_eq_true, beq_iff_eq] at found
        obtain ⟨digit, rfl⟩ := found
        have minus : isDigit '-' = false := by decide
        rw [partMinuses_digit_minus digit, partMinuses_eq rest]
        simp [minusPass, digit, minus]
      · rw [Bool.not_eq_true] at found
        rw [partMinuses_cons_cons found, partMinuses_eq (d :: rest)]
        simp [minusPass, found]

theorem partLetters_eq (cs : List Char) : partLetters cs = letterPass cs := by
  induction cs with
  | nil => rfl
  | cons c rest ih =>
      by_cases letter : c.isAlpha = true
      · have found : matchLetter (c :: rest) = 0 + 1 := by simp [matchLetter, letter]
        rw [partLetters, Text.replaceMatches_of_matched found]
        simpa [letterPass, letter, partLetters] using ih
      · have unmatched : matchLetter (c :: rest) = 0 := by simp [matchLetter, letter]
        rw [partLetters, Text.replaceMatches_of_unmatched unmatched]
        simpa [letterPass, letter, partLetters] using ih

/-- What a match of fractions is made of: points and digits. -/
theorem mem_matchFractions {inside : Bool} {cs : List Char} {c : Char}
    (member : c ∈ cs.take (matchFractions inside cs)) : c = '.' ∨ isDigit c = true := by
  fun_induction matchFractions inside cs with
  | case1 inside d rest digit ih =>
      simp only [List.take_succ_cons, List.mem_cons] at member
      rcases member with rfl | rfl | later
      · exact .inl rfl
      · exact .inr digit
      · exact ih later
  | case2 => simp at member
  | case3 inside d rest _ continues ih =>
      simp only [List.take_succ_cons, List.mem_cons] at member
      rcases member with rfl | later
      · exact .inr (Bool.and_eq_true_iff.mp continues).2
      · exact ih later
  | case4 => simp at member
  | case5 => simp at member

theorem getLast?_flatMap_of {α : Type} {f : α → List Char} {last : α → Char}
    (ends : ∀ a, (f a).getLast? = some (last a)) (list : List α) :
    (list.flatMap f).getLast? = (list.map last).getLast? := by
  rcases List.eq_nil_or_concat list with rfl | ⟨before, a, rfl⟩
  · rfl
  · simp [ends]

theorem getLast?_flatMap_blankBeforePoint (cs : List Char) :
    (cs.flatMap blankBeforePoint).getLast? = cs.getLast? := by
  have ends (c : Char) : (blankBeforePoint c).getLast? = some (id c) := by
    by_cases point : c = '.' <;> simp [blankBeforePoint, point]
  rw [getLast?_flatMap_of ends, List.map_id]

/-- Inside a run, the pass puts blanks into the rest of the run and then goes on outside. -/
theorem fractionPass_inside (cs : List Char) :
    fractionPass true cs = (cs.take (matchFractions true cs)).flatMap blankBeforePoint ++
      fractionPass false (cs.drop (matchFractions true cs)) := by
  generalize entered : true = inside
  fun_induction matchFractions inside cs with
  | case1 inside d rest digit ih =>
      have point : d ≠ '.' := Text.ne_of_class digit (by decide)
      simp [fractionPass, digitFollows, digit, ← entered, point, ih rfl, blankBeforePoint]
  | case2 inside d rest digit => simp [fractionPass, digitFollows, digit]
  | case3 inside c rest noDigit continues ih =>
      cases entered
      have digit : isDigit c = true := by simpa using continues
      have point : c ≠ '.' := Text.ne_of_class digit (by decide)
      simp [fractionPass, digit, point, ih rfl, blankBeforePoint]
  | case4 inside c rest noDigit stops =>
      cases entered
      have digit : isDigit c = false := by simpa using stops
      by_cases point : c = '.'
      · have none : digitFollows rest = false := by
          cases rest with
          | nil => rfl
          | cons d rest => exact absurd point (fun point => noDigit d rest point rfl)
        simp [fractionPass, point, none]
      · simp [fractionPass, point, digit]
  | case5 => rfl

theorem partFractions_run {d : Char} {rest : List Char} (digit : isDigit d = true) :
    partFractions ('.' :: d :: rest) =
      '.' :: d :: (rest.take (matchFractions true rest)).flatMap blankBeforePoint ++
        partFractions (rest.drop (matchFractions true rest)) := by
  have found : matchFractions false ('.' :: d :: rest) = (matchFractions true rest + 1) + 1 := by
    simp [matchFractions, digit]
  have point : d ≠ '.' := Text.ne_of_class digit (by decide)
  have first : d :: (rest.take (matchFractions true rest)).flatMap blankBeforePoint =
      (d :: rest.take (matchFractions true rest)).flatMap blankBeforePoint := by
    simp [blankBeforePoint, point]
  have spread : ('.' :: d :: rest.take (matchFractions true rest)).flatMap blankBeforePoint =
      ' ' :: '.' :: d :: (rest.take (matchFractions true rest)).flatMap blankBeforePoint := by
    rw [List.flatMap_cons, first]
    rfl
  rw [partFractions, Text.replaceMatches_of_matched found, List.take_succ_cons,
    List.drop_succ_cons, spread, Text.trim, Text.trimLeft_of_blank (by decide),
    Text.trimLeft_of_not_blank (by decide), Text.trimRight_of_getLast?]
  intro c last
  rw [List.getLast?_cons_cons, first, getLast?_flatMap_blankBeforePoint] at last
  rcases List.mem_cons.mp (List.mem_of_getLast? last) with rfl | member
  · exact Text.isBlank_of_isDigit digit
  · rcases mem_matchFractions member with rfl | digit
    · decide
    · exact Text.isBlank_of_isDigit digit

theorem partFractions_unmatched {c : Char} {rest : List Char}
    (unmatched : (c == '.' && digitFollows rest) = false) :
    partFractions (c :: rest) = c :: partFractions rest := by
  apply Text.replaceMatches_of_unmatched
  unfold matchFractions
  split <;> simp_all [digitFollows]

theorem fractionPass_unmatched {c : Char} {rest : List Char}
    (unmatched : (c == '.' && digitFollows rest) = false) :
    fractionPass false (c :: rest) = c :: fractionPass false rest := by
  by_cases point : c = '.'
  · have none : digitFollows rest = false := by simpa [point] using unmatched
    simp [fractionPass, point, none]
  · simp [fractionPass, point]

theorem partFractions_eq (cs : List Char) : partFractions cs = fractionPass false cs := by
  match cs with
  | [] => rfl
  | [c] =>
      have none : (c == '.' && digitFollows []) = false := Bool.and_false _
      rw [partFractions_unmatched none, fractionPass_unmatched none]
      rfl
  | c :: d :: rest =>
      by_cases found : (c == '.' && isDigit d) = true
      · rw [Bool.and_eq_true, beq_iff_eq] at found
        obtain ⟨rfl, digit⟩ := found
        have point : d ≠ '.' := Text.ne_of_class digit (by decide)
        rw [partFractions_run digit, partFractions_eq (rest.drop (matchFractions true rest))]
        simp [fractionPass, digitFollows, digit, point, fractionPass_inside rest]
      · rw [Bool.not_eq_true] at found
        rw [partFractions_unmatched found, fractionPass_unmatched found,
          partFractions_eq (d :: rest)]
termination_by cs.length
decreasing_by all_goals simp [List.length_drop]; try omega

theorem parted_eq (cs : List Char) :
    parted cs = fractionPass false (letterPass (minusPass false (commasToBlanks cs))) := by
  rw [parted, partFractions_eq, partLetters_eq, partMinuses_eq]

@[simp] theorem letterPass_append (front back : List Char) :
    letterPass (front ++ back) = letterPass front ++ letterPass back := List.flatMap_append

theorem minusPass_cons {behindDigit : Bool} {c : Char} {rest : List Char} (other : c ≠ '-') :
    minusPass behindDigit (c :: rest) = c :: minusPass (isDigit c) rest := by
  simp [minusPass, other]

theorem letterPass_letter {c : Char} {rest : List Char} (letter : c.isAlpha = true) :
    letterPass (c :: rest) = ' ' :: c :: ' ' :: letterPass rest := by simp [letterPass, letter]

theorem letterPass_other {c : Char} {rest : List Char} (other : c.isAlpha = false) :
    letterPass (c :: rest) = c :: letterPass rest := by simp [letterPass, other]

/-- A comma becomes a blank, and a blank stays one. -/
theorem commasToBlanks_separator {c : Char} (rest : List Char) (separator : isSeparator c = true) :
    ∃ blank, isBlank blank = true ∧ commasToBlanks (c :: rest) = blank :: commasToBlanks rest := by
  by_cases comma : c = ','
  · exact ⟨' ', by decide, by simp [commasToBlanks, comma]⟩
  · refine ⟨c, ?_, by simp [commasToBlanks, comma]⟩
    simpa [isSeparator, comma] using separator

theorem commasToBlanks_solid {c : Char} (rest : List Char) (solid : isSeparator c = false) :
    commasToBlanks (c :: rest) = c :: commasToBlanks rest := by
  have comma : c ≠ ',' := (Text.ne_of_class (by decide) solid).symm
  simp [commasToBlanks, comma]

/-- What a character that is neither separator nor letter turns into before fractions are parted. -/
theorem letterPass_minusPass {behindDigit : Bool} {c : Char} {rest : List Char}
    (separator : isSeparator c = false) (letter : c.isAlpha = false) :
    letterPass (minusPass behindDigit (commasToBlanks (c :: rest))) =
      (if behindDigit && c == '-' then [' ', '-'] else [c]) ++
        letterPass (minusPass (isDigit c) (commasToBlanks rest)) := by
  rw [commasToBlanks_solid rest separator, minusPass, letterPass_append]
  by_cases minus : (behindDigit && c == '-') = true
  · rw [if_pos minus]
    rfl
  · rw [if_neg minus]
    simp [letterPass, letter]

theorem letterPass_minusPass_letter {behindDigit : Bool} {c : Char} {rest : List Char}
    (letter : c.isAlpha = true) :
    letterPass (minusPass behindDigit (commasToBlanks (c :: rest))) =
      ' ' :: c :: ' ' :: letterPass (minusPass false (commasToBlanks rest)) := by
  have minus : c ≠ '-' := Text.ne_of_class letter (by decide)
  rw [commasToBlanks_solid rest (isSeparator_of_isAlpha letter), minusPass_cons minus,
    letterPass_letter letter, Text.isDigit_of_isAlpha letter]

theorem letterPass_minusPass_separator {c : Char} (rest : List Char)
    (separator : isSeparator c = true) :
    ∃ blank, isBlank blank = true ∧ ∀ behindDigit,
      letterPass (minusPass behindDigit (commasToBlanks (c :: rest))) =
        blank :: letterPass (minusPass false (commasToBlanks rest)) := by
  obtain ⟨blank, white, same⟩ := commasToBlanks_separator rest separator
  have minus : blank ≠ '-' := Text.ne_of_class white (by decide)
  refine ⟨blank, white, fun behindDigit => ?_⟩
  rw [same, minusPass_cons minus, letterPass_other (Text.isAlpha_of_isBlank white),
    Text.isDigit_of_isBlank white]

/-- The passes before it do not change whether a digit comes next. -/
theorem digitFollows_letterPass_minusPass (behindDigit : Bool) (cs : List Char) :
    digitFollows (letterPass (minusPass behindDigit (commasToBlanks cs))) =
      digitFollows cs := by
  cases cs with
  | nil => rfl
  | cons c rest =>
      by_cases separator : isSeparator c = true
      · obtain ⟨blank, white, same⟩ := letterPass_minusPass_separator rest separator
        rw [same, digitFollows, digitFollows, Text.isDigit_of_isBlank white,
          isDigit_of_isSeparator separator]
      · by_cases letter : c.isAlpha = true
        · rw [letterPass_minusPass_letter letter, digitFollows, digitFollows,
            Text.isDigit_of_isAlpha letter]
          decide
        · rw [Bool.not_eq_true] at separator letter
          rw [letterPass_minusPass separator letter]
          split
          · next minus =>
              rw [Bool.and_eq_true, beq_iff_eq] at minus
              rw [minus.2]
              show isDigit ' ' = isDigit '-'
              decide
          · rfl

/-- The passes over the text behind `left`. -/
def passes (left : Left) (cs : List Char) : List Char :=
  fractionPass (left.inside cs) (letterPass (minusPass left.behindDigit (commasToBlanks cs)))

theorem fractionPass_solid {inside : Bool} {c : Char} {rest : List Char}
    (point : c ≠ '.') (digit : isDigit c = false) :
    fractionPass inside (c :: rest) = c :: fractionPass false rest := by
  simp [fractionPass, point, digit]

theorem fractionPass_point (inside : Bool) (rest : List Char) :
    fractionPass inside ('.' :: rest) =
      (if inside && digitFollows rest then [' ', '.'] else ['.']) ++
        fractionPass (digitFollows rest) rest := by
  cases follows : digitFollows rest <;> simp [fractionPass, follows]

section Steps

variable {c : Char} (left : Left) (rest : List Char)

theorem passes_separator (separator : isSeparator c = true) :
    ∃ blank, isBlank blank = true ∧ passes left (c :: rest) = blank :: passes .nothing rest := by
  obtain ⟨blank, white, same⟩ := letterPass_minusPass_separator rest separator
  have point : blank ≠ '.' := Text.ne_of_class white (by decide)
  refine ⟨blank, white, ?_⟩
  rw [passes, same, fractionPass_solid point (Text.isDigit_of_isBlank white)]
  rfl

theorem passes_letter (letter : c.isAlpha = true) :
    passes left (c :: rest) = ' ' :: c :: ' ' :: passes .letter rest := by
  have point : c ≠ '.' := Text.ne_of_class letter (by decide)
  rw [passes, letterPass_minusPass_letter letter, fractionPass_solid (by decide) (by decide),
    fractionPass_solid point (Text.isDigit_of_isAlpha letter),
    fractionPass_solid (by decide) (by decide)]
  rfl

theorem passes_point :
    passes left ('.' :: rest) =
      (if left == .fraction && digitFollows rest then [' ', '.'] else ['.']) ++
        passes .point rest := by
  have digit : isDigit '.' = false := by decide
  have inside : left.inside ('.' :: rest) = (left == .fraction) := by cases left <;> rfl
  have plain : (left.behindDigit && '.' == '-') = false := Bool.and_false _
  rw [passes, letterPass_minusPass (by decide) (by decide), plain, if_neg Bool.false_ne_true,
    List.singleton_append, digit, inside, fractionPass_point, digitFollows_letterPass_minusPass]
  rfl

theorem passes_digit (separator : isSeparator c = false) (digit : isDigit c = true) :
    passes left (c :: rest) = c :: passes (left.after c) rest := by
  have point : c ≠ '.' := Text.ne_of_class digit (by decide)
  have minus : c ≠ '-' := Text.ne_of_class digit (by decide)
  have letter := Text.isAlpha_of_isDigit digit
  rw [passes, letterPass_minusPass separator letter]
  cases left <;>
    simp [passes, fractionPass, point, minus, digit, Left.inside, Left.after, digitFollows,
      separator, letter, Left.behindDigit]

theorem passes_other (separator : isSeparator c = false) (letter : c.isAlpha = false)
    (digit : isDigit c = false) (point : c ≠ '.') :
    passes left (c :: rest) =
      (if left.behindDigit && c == '-' then [' ', c] else [c]) ++ passes .other rest := by
  rw [passes, letterPass_minusPass separator letter, digit]
  split
  · next minus =>
      rw [Bool.and_eq_true, beq_iff_eq] at minus
      obtain ⟨_, rfl⟩ := minus
      exact (fractionPass_solid (by decide) (by decide)).trans
        (congrArg _ (fractionPass_solid (by decide) (by decide)))
  · exact fractionPass_solid point digit

/-- A blank is put in front of a character that opens a token, unless one stands there anyway. -/
theorem passes_solid (separator : isSeparator c = false) (letter : c.isAlpha = false) :
    passes left (c :: rest) =
      (if left.opens c rest && !left.gap then [' ', c] else [c]) ++
        passes (left.after c) rest := by
  by_cases point : c = '.'
  · cases point
    rw [passes_point]
    cases left <;> simp [Left.opens, Left.gap, Left.after, separator]
  · by_cases digit : isDigit c = true
    · have minus : c ≠ '-' := Text.ne_of_class digit (by decide)
      rw [passes_digit left rest separator digit]
      cases left <;> simp [Left.opens, Left.gap, letter, minus, point]
    · rw [Bool.not_eq_true] at digit
      have after : left.after c = .other := by
        simp [Left.after, separator, letter, digit, point]
      rw [passes_other left rest separator letter digit point, after]
      cases left <;> simp [Left.opens, Left.gap, Left.behindDigit, letter, point]

end Steps

/-- The passes put blanks in front of the characters that open a token, and nowhere else. -/
theorem blankGlyphs_passes (left : Left) (cs : List Char) :
    blankGlyphs left.gap (passes left cs) = glyphs left cs := by
  have space : isBlank ' ' = true := by decide
  induction cs generalizing left with
  | nil => rfl
  | cons c rest ih =>
      by_cases separator : isSeparator c = true
      · obtain ⟨blank, white, same⟩ := passes_separator left rest separator
        have later : blankGlyphs true (passes .nothing rest) = glyphs .nothing rest := ih .nothing
        rw [same, blankGlyphs, if_pos white, glyphs, if_pos separator, later]
      · rw [glyphs, if_neg separator]
        rw [Bool.not_eq_true] at separator
        have solid := isBlank_of_isSeparator separator
        by_cases letter : c.isAlpha = true
        · have after : left.after c = .letter := by simp [Left.after, separator, letter]
          have opens : left.opens c rest = true := by cases left <;> simp [Left.opens, letter]
          have later : blankGlyphs true (passes .letter rest) = glyphs .letter rest := ih .letter
          rw [passes_letter left rest letter, after, opens, ← later]
          simp [blankGlyphs, space, solid]
        · rw [Bool.not_eq_true] at letter
          have later := ih (left.after c)
          rw [Left.gap_after separator letter] at later
          rw [passes_solid left rest separator letter, ← later]
          cases gap : left.gap with
          | true => simp [Left.opens_of_gap gap, blankGlyphs, solid]
          | false => cases left.opens c rest <;> simp [blankGlyphs, solid, space]

theorem blankGlyphs_parted (cs : List Char) : blankGlyphs true (parted cs) = glyphs .nothing cs := by
  rw [parted_eq]
  exact blankGlyphs_passes .nothing cs

end Vignette.Path
