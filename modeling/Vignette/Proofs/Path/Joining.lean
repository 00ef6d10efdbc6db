import Vignette.Proofs.Numeral
import Vignette.Proofs.Path.Segmentation
import Vignette.Proofs.Text.Cutting

namespace Vignette.Path

/-! Tokens of joined texts. Between texts with a separator the tokens of each stay as they are, and a
letter stands alone. A numeral is therefore one token unless it has an exponent, of which the letter
parts it in three. -/

open Text (isBlank isDigit)

section Cuts

variable {left : Left} {c : Char} {front back : List Char}

theorem glyphs_front (left : Left) (front : List Char) (next : digitFollows back = false) :
    glyphs left (front ++ back) = glyphs left front ++ glyphs (left.across front) back := by
  induction front generalizing left with
  | nil => rfl
  | cons c front ih =>
      by_cases separator : isSeparator c = true
      · rw [List.cons_append, glyphs, if_pos separator, glyphs, if_pos separator, ih,
          ← left.after_separator separator]
        rfl
      · have same : left.opens c (front ++ back) = left.opens c front := by
          apply Left.opens_congr
          intro _
          cases front with
          | nil => exact next
          | cons d front => rfl
        rw [List.cons_append, glyphs, if_neg separator, glyphs, if_neg separator, ih, same]
        rfl

/-- Behind a letter a text is read as at its beginning. -/
theorem glyphs_behind_letter (back : List Char) : glyphs .letter back = glyphs .nothing back := by
  cases back with
  | nil => rfl
  | cons c rest =>
      have opens : Left.letter.opens c rest = true := rfl
      rw [glyphs, glyphs, Left.after_of_opens opens]
      rfl

theorem pieces_ne_nil (glyphs : List Glyph) : pieces glyphs ≠ [] := by
  cases glyphs with
  | nil => simp [pieces]
  | cons first rest =>
      rw [pieces, attach_eq]
      split <;> simp

theorem pieces_append (front : List Glyph) (c : Char) (back : List Glyph) :
    pieces (front ++ ⟨c, true⟩ :: back) = pieces front ++ group (⟨c, true⟩ :: back) := by
  induction front with
  | nil => rfl
  | cons first front ih =>
      rw [List.cons_append, pieces, ih, pieces, Text.attach_append (pieces_ne_nil front)]
      split <;> rfl

theorem group_append (front : List Glyph) {back : List Glyph}
    (opened : back = [] ∨ ∃ c rest, back = ⟨c, true⟩ :: rest) :
    group (front ++ back) = group front ++ group back := by
  rcases opened with rfl | ⟨c, rest, rfl⟩
  · simp [group]
  · cases front with
    | nil => rfl
    | cons first front =>
        rw [List.cons_append, group, pieces_append, Text.attach_append (pieces_ne_nil front)]
        rfl

theorem cut_separated (front back : List Char) (separator : isSeparator c = true) :
    cut (front ++ c :: back) = cut front ++ cut back := by
  have next : digitFollows (c :: back) = false := isDigit_of_isSeparator separator
  rw [cut_eq, glyphs_front .nothing front next, glyphs, if_pos separator,
    group_append _ (glyphs_nothing back), cut_eq, cut_eq]

theorem cut_letter (front back : List Char) (letter : c.isAlpha = true) :
    cut (front ++ c :: back) = cut front ++ [c] :: cut back := by
  have next : digitFollows (c :: back) = false := Text.isDigit_of_isAlpha letter
  have separator := isSeparator_of_isAlpha letter
  have opens (left : Left) : left.opens c back = true := by
    cases left <;> simp [Left.opens, letter]
  have after (left : Left) : left.after c = .letter := by simp [Left.after, separator, letter]
  have alone : group [⟨c, true⟩] = [[c]] := rfl
  rw [cut_eq, glyphs_front .nothing front next, glyphs, if_neg (by simp [separator]), opens, after,
    glyphs_behind_letter, group_append _ (.inr ⟨c, _, rfl⟩), ← List.singleton_append,
    group_append _ (glyphs_nothing back), alone, cut_eq, cut_eq]
  rfl

theorem cut_intercalate {separator : Char} (separates : isSeparator separator = true)
    (texts : List (List Char)) : cut ([separator].intercalate texts) = texts.flatMap cut := by
  induction texts with
  | nil => rfl
  | cons text rest ih =>
      cases rest with
      | nil => simp
      | cons next rest =>
          rw [List.intercalate_cons_cons, List.append_assoc, List.singleton_append,
            cut_separated _ _ separates, ih]
          rfl

theorem tokens_intercalate {separator : Char} (separates : isSeparator separator = true)
    (list : List String) :
    tokens ((String.singleton separator).intercalate list) = list.flatMap tokens := by
  rw [tokens, String.toList_intercalate, String.toList_singleton, cut_intercalate separates,
    List.map_flatMap, List.flatMap_map]
  rfl

end Cuts

/-- What keeps a text in one piece. -/
structure Undivided (text : List Char) : Prop where
  nonempty : text ≠ []
  plain : ∀ c ∈ text, isSeparator c = false ∧ c.isAlpha = false
  minus : '-' ∉ text.tail
  points : text.count '.' ≤ 1

section Undivided

variable {text : List Char}

theorem Undivided.not_apart (undivided : Undivided text) {left gap right : List Char} {a b : Char}
    (placed : text = left ++ a :: gap ++ b :: right) (between : ∀ c ∈ gap, isSeparator c = true) :
    ¬ Apart left a gap b right := by
  obtain ⟨_, plain, minus, points⟩ := undivided
  cases placed
  intro apart
  rcases apart with separated | letter | letter | ⟨_, rfl⟩ | ⟨rfl, _, front, digits, same, _, _⟩
  · obtain ⟨c, member⟩ := List.exists_mem_of_ne_nil gap separated
    have solid := (plain c (by simp [member])).1
    rw [between c member] at solid
    contradiction
  · have other := (plain a (by simp)).2
    rw [letter] at other
    contradiction
  · have other := (plain b (by simp)).2
    rw [letter] at other
    contradiction
  · rw [List.tail_append_of_ne_nil (by simp)] at minus
    exact minus (by simp)
  · rw [same] at points
    simp only [List.count_append, List.count_cons_self] at points
    omega

theorem Undivided.cut_eq (undivided : Undivided text) : cut text = [text] := by
  have whole : kept text = text :=
    List.filter_eq_self.mpr fun c member => by simp [(undivided.plain c member).1]
  have segmentation : Segmentation text [text] := by
    refine ⟨by simpa using undivided.nonempty.symm, by simpa using whole.symm, ?_⟩
    intro left a gap b right placed solid _ between
    refine iff_of_false ?_ (undivided.not_apart placed between)
    rw [isCut_cons, kept_append, kept_solid [] solid]
    rintro (none | ⟨rest, same, _⟩)
    · simp at none
    · -- A cut behind the whole text does not leave the second of the two characters out.
      have short : (kept left).length ≤ left.length := List.length_filter_le _ left
      have long := congrArg List.length (same.trans (congrArg (· ++ rest) placed))
      simp only [kept_nil, List.length_append, List.length_cons, List.length_nil] at long
      omega
  exact (segmentation_cut text).unique segmentation

end Undivided

section Numerals

variable {text : List Char}

theorem isDigit_or_point {whole fraction : List Char} (all : AllDigits whole)
    (pointed : IsFraction fraction) : ∀ c ∈ whole ++ fraction, isDigit c = true ∨ c = '.' := by
  intro c member
  rcases List.mem_append.mp member with inWhole | inFraction
  · exact .inl (all c inWhole)
  · cases pointed with
    | absent => simp at inFraction
    | point places => exact (List.mem_cons.mp inFraction).symm.imp_left (places c)

theorem count_point {digits : List Char} (all : AllDigits digits) : digits.count '.' = 0 :=
  List.count_eq_zero.mpr fun member => absurd (all '.' member) (by decide)

theorem undivided_of_isMantissa (mantissa : IsMantissa text) : Undivided text := by
  obtain ⟨⟨sign, whole, fraction, rfl, signed, all, pointed⟩, d, inText, digit⟩ := mantissa
  have unsigned := isDigit_or_point all pointed
  have minus : '-' ∉ whole ++ fraction := fun member =>
    (unsigned '-' member).elim (by decide) (by decide)
  refine ⟨List.ne_nil_of_mem inText, ?_, ?_, ?_⟩
  · intro c member
    rw [List.append_assoc, List.mem_append] at member
    rcases member with inSign | inside
    · cases signed with
      | absent => simp at inSign
      | plus => rw [List.mem_singleton.mp inSign]; decide
      | minus => rw [List.mem_singleton.mp inSign]; decide
    · rcases unsigned c inside with digit | rfl
      · exact ⟨isSeparator_of_isDigit digit, Text.isAlpha_of_isDigit digit⟩
      · decide
  · rw [List.append_assoc]
    cases signed with
    | absent => exact fun member => minus (List.mem_of_mem_tail member)
    | plus => exact minus
    | minus => exact minus
  · have none : sign.count '.' = 0 := by cases signed <;> rfl
    have one : fraction.count '.' ≤ 1 := by
      cases pointed with
      | absent => decide
      | point places => simp [count_point places]
    rw [List.count_append, List.count_append, none, count_point all]
    omega

/-- A text with a letter behind other characters falls into three: what stands before the letter,
the letter, and what stands behind it. Any other text is its only part. -/
def partedAtLetter (text : List Char) : List (List Char) :=
  match text.takeWhile (!·.isAlpha), text.dropWhile (!·.isAlpha) with
  | first :: more, letter :: behind => [first :: more, [letter], behind]
  | _, _ => [text]

theorem partedAtLetter_plain (plain : ∀ c ∈ text, c.isAlpha = false) :
    partedAtLetter text = [text] := by
  have rest : (text ++ []).dropWhile (fun c : Char => !c.isAlpha) = [] :=
    List.dropWhile_append_of_pos (by simpa using plain)
  rw [List.append_nil] at rest
  unfold partedAtLetter
  rw [rest]
  split
  · contradiction
  · rfl

theorem partedAtLetter_letter {c : Char} (letter : c.isAlpha = true) :
    partedAtLetter [c] = [[c]] := by
  simp [partedAtLetter, letter]

theorem partedAtLetter_exponent {mantissa power : List Char} {letter : Char}
    (plain : ∀ c ∈ mantissa, c.isAlpha = false) (nonempty : mantissa ≠ [])
    (mark : letter.isAlpha = true) :
    partedAtLetter (mantissa ++ letter :: power) = [mantissa, [letter], power] := by
  have front : (mantissa ++ letter :: power).takeWhile (!·.isAlpha) = mantissa := by
    rw [List.takeWhile_append_of_pos (by simpa using plain), List.takeWhile_cons,
      if_neg (by simp [mark]), List.append_nil]
  have behind : (mantissa ++ letter :: power).dropWhile (!·.isAlpha) = letter :: power := by
    rw [List.dropWhile_append_of_pos (by simpa using plain), List.dropWhile_cons,
      if_neg (by simp [mark])]
  obtain ⟨first, more, rfl⟩ := List.exists_cons_of_ne_nil nonempty
  unfold partedAtLetter
  rw [front, behind]

/-- A numeral is a single token, or its exponent parts it in three. -/
inductive NumeralCut (text : List Char) : Prop
  | whole (undivided : Undivided text)
  | parted {mantissa power : List Char} {letter : Char} (same : text = mantissa ++ letter :: power)
    (mark : letter = 'e' ∨ letter = 'E') (front : Undivided mantissa) (back : Undivided power)

theorem numeralCut_of_read {numeral : Numeral} (read : Numeral.read? text = some numeral) :
    NumeralCut text := by
  obtain ⟨mantissa, exponent, rfl, isMantissa, powered⟩ := Numeral.parts_of_read read
  have front := undivided_of_isMantissa isMantissa
  rcases powered with rfl | powered
  · rw [List.append_nil]
    exact .whole front
  · obtain ⟨mark, signed, all, nonempty⟩ := powered
    obtain ⟨d, member⟩ := List.exists_mem_of_ne_nil _ nonempty
    have power : IsMantissa _ := ⟨⟨_, _, [], rfl, signed, all, .absent⟩, d, by simp [member], all d member⟩
    rw [List.append_nil] at power
    exact .parted rfl mark front (undivided_of_isMantissa power)

end Numerals

/-- What path data is made of: letters and numbers. -/
def IsPathToken (token : String) : Prop :=
  (∃ letter, letter.isAlpha = true ∧ token = String.singleton letter) ∨ isNumber token = true

/-- A number with an exponent. -/
def HasExponent (token : String) : Prop :=
  isNumber token = true ∧ ('e' ∈ token.toList ∨ 'E' ∈ token.toList)

/-- A token with an exponent in its three parts, and any other token as it is. -/
def exponentParts (token : String) : List String :=
  (partedAtLetter token.toList).map String.ofList

section Tokens

variable {token : String}

theorem not_hasExponent_of_plain (plain : ∀ c ∈ token.toList, c.isAlpha = false) :
    ¬ HasExponent token := by
  rintro ⟨_, e | e⟩
  · exact absurd (plain 'e' e) (by decide)
  · exact absurd (plain 'E' e) (by decide)

/-- How a letter or a number comes back from the tokens of its text. -/
inductive TokenCut (token : String) : Prop
  | whole (same : tokens token = [token]) (parts : exponentParts token = [token])
    (unpowered : ¬ HasExponent token)
  | parted (same : tokens token = exponentParts token) (three : (exponentParts token).length = 3)
    (powered : HasExponent token)

theorem read_of_isNumber (number : isNumber token = true) :
    ∃ numeral, Numeral.read? token.toList = some numeral := by
  obtain ⟨value, found⟩ := Option.isSome_iff_exists.mp number
  obtain ⟨numeral, read, _⟩ := Option.bind_eq_some_iff.mp found
  exact ⟨numeral, read⟩

theorem not_isNumber_letter {letter : Char} (alpha : letter.isAlpha = true) :
    isNumber (String.singleton letter) ≠ true := by
  intro number
  obtain ⟨numeral, read⟩ := read_of_isNumber number
  rw [String.toList_singleton] at read
  cases numeralCut_of_read read with
  | whole undivided =>
      have other := (undivided.plain letter (by simp)).2
      rw [alpha] at other
      contradiction
  | parted same mark front back =>
      have lengths := congrArg List.length same
      have before := List.length_pos_iff.mpr front.nonempty
      simp only [List.length_append, List.length_cons, List.length_nil] at lengths
      omega

theorem tokenCut_of_letter {letter : Char} (alpha : letter.isAlpha = true) :
    TokenCut (String.singleton letter) := by
  have text : (String.singleton letter).toList = [letter] := String.toList_singleton letter
  have back : String.ofList [letter] = String.singleton letter := by
    rw [← text, String.ofList_toList]
  have single : cut [letter] = [[letter]] := cut_letter [] [] alpha
  refine .whole ?_ ?_ fun powered => not_isNumber_letter alpha powered.1
  · rw [tokens, text, single]
    exact congrArg (· :: []) back
  · rw [exponentParts, text, partedAtLetter_letter alpha]
    exact congrArg (· :: []) back

theorem tokenCut_of_number (number : isNumber token = true) : TokenCut token := by
  obtain ⟨numeral, read⟩ := read_of_isNumber number
  cases numeralCut_of_read read with
  | whole undivided =>
      have plain : ∀ c ∈ token.toList, c.isAlpha = false := fun c member =>
        (undivided.plain c member).2
      have back : [token.toList].map String.ofList = [token] := by simp
      refine .whole ?_ ?_ (not_hasExponent_of_plain plain)
      · rw [tokens, undivided.cut_eq, back]
      · rw [exponentParts, partedAtLetter_plain plain, back]
  | @parted mantissa power letter same mark front back =>
      have alpha : letter.isAlpha = true := by
        rcases mark with rfl | rfl
        · decide
        · decide
      have parts : partedAtLetter token.toList = [mantissa, [letter], power] := by
        rw [same]
        exact partedAtLetter_exponent (fun c member => (front.plain c member).2) front.nonempty alpha
      refine .parted ?_ ?_ ⟨number, ?_⟩
      · rw [exponentParts, parts, tokens, same, cut_letter _ _ alpha, front.cut_eq, back.cut_eq]
        rfl
      · rw [exponentParts, parts]
        rfl
      · rw [same]
        rcases mark with rfl | rfl
        · exact .inl (by simp)
        · exact .inr (by simp)

theorem tokenCut (made : IsPathToken token) : TokenCut token := by
  rcases made with ⟨letter, alpha, rfl⟩ | number
  · exact tokenCut_of_letter alpha
  · exact tokenCut_of_number number

theorem TokenCut.tokens_eq (cut : TokenCut token) : tokens token = exponentParts token := by
  cases cut with
  | whole same parts _ => rw [same, parts]
  | parted same _ _ => exact same

variable {list : List String}

theorem length_le_length_exponentParts (cuts : ∀ token ∈ list, TokenCut token) :
    list.length ≤ (list.flatMap exponentParts).length := by
  induction list with
  | nil => exact Nat.le_refl 0
  | cons token rest ih =>
      have later := ih fun other member => cuts other (List.mem_cons_of_mem _ member)
      rw [List.flatMap_cons, List.length_append, List.length_cons]
      cases cuts token List.mem_cons_self with
      | whole _ parts _ =>
          rw [parts, List.length_singleton]
          omega
      | parted _ three _ => omega

/-- The parts of tokens are the tokens themselves exactly if none has an exponent. -/
theorem flatMap_exponentParts_iff (cuts : ∀ token ∈ list, TokenCut token) :
    list.flatMap exponentParts = list ↔ ∀ token ∈ list, ¬ HasExponent token := by
  induction list with
  | nil => simp
  | cons token rest ih =>
      have others : ∀ other ∈ rest, TokenCut other := fun other member =>
        cuts other (List.mem_cons_of_mem _ member)
      rw [List.flatMap_cons, List.forall_mem_cons, ← ih others]
      cases cuts token List.mem_cons_self with
      | whole _ parts unpowered => simp [parts, unpowered]
      | parted _ three powered =>
          refine iff_of_false ?_ fun both => both.1 powered
          intro same
          have lengths := congrArg List.length same
          have least := length_le_length_exponentParts others
          rw [List.length_append, List.length_cons, three] at lengths
          omega

theorem leadingNumbers_eq (numbers : ∀ token ∈ list, isNumber token = true) :
    leadingNumbers list = list.filterMap number? := by
  induction list with
  | nil => rfl
  | cons token rest ih =>
      obtain ⟨value, found⟩ := Option.isSome_iff_exists.mp (numbers token List.mem_cons_self)
      rw [leadingNumbers, found, List.filterMap_cons_some found,
        ih fun other member => numbers other (List.mem_cons_of_mem _ member)]

end Tokens

/-- Letters and numbers with a separator between each and the next come back as the tokens they
are, but for the numbers with an exponent, each of which comes back in three. Coordinates without
exponents make the points they stand for. -/
theorem tokens_joined {separator : Char} (separates : isSeparator separator = true)
    {list : List String} (made : ∀ token ∈ list, IsPathToken token) :
    tokens ((String.singleton separator).intercalate list) = list.flatMap exponentParts ∧
    (tokens ((String.singleton separator).intercalate list) = list ↔
      ∀ token ∈ list, ¬ HasExponent token) ∧
    ((∀ token ∈ list, isNumber token = true ∧ ¬ HasExponent token) →
      points ((String.singleton separator).intercalate list) =
        pairUp (list.filterMap number?)) := by
  have cuts : ∀ token ∈ list, TokenCut token := fun token member => tokenCut (made token member)
  have joined : tokens ((String.singleton separator).intercalate list) =
      list.flatMap exponentParts := by
    rw [tokens_intercalate separates, List.flatMap_def, List.flatMap_def,
      List.map_congr_left fun token member => (cuts token member).tokens_eq]
  have exactly := flatMap_exponentParts_iff cuts
  refine ⟨joined, ?_, ?_⟩
  · rw [joined]
    exact exactly
  · intro plain
    rw [points, joined, exactly.mpr fun token member => (plain token member).2,
      leadingNumbers_eq fun token member => (plain token member).1]

/-- Coordinates without exponents, and a move to a point with one. -/
theorem tokens_joined_thousand :
    (∀ token ∈ ["M", "1e3", "-.5"], IsPathToken token) ∧
    tokens (" ".intercalate ["M", "1e3", "-.5"]) = ["M", "1", "e", "3", "-.5"] ∧
    points (",".intercalate ["-.5", "+2."]) = [⟨-0.5, 2⟩] := by
  have separates : isSeparator ' ' = true ∧ isSeparator ',' = true := by decide
  have move : IsPathToken "M" := .inl ⟨'M', by decide, rfl⟩
  have number (token : String) (read : isNumber token = true) : IsPathToken token := .inr read
  have thousand : isNumber "1e3" = true := by decide +kernel
  have half : isNumber "-.5" = true := by decide +kernel
  have two : isNumber "+2." = true := by decide +kernel
  have path : ∀ token ∈ ["M", "1e3", "-.5"], IsPathToken token := by
    simp [move, number _ thousand, number _ half]
  have coordinates : ∀ token ∈ ["-.5", "+2."], IsPathToken token := by
    simp [number _ half, number _ two]
  have plain : ∀ token ∈ ["-.5", "+2."], isNumber token = true ∧ ¬ HasExponent token := by
    simp [HasExponent, half, two]
  have values : pairUp (["-.5", "+2."].filterMap number?) = [⟨-0.5, 2⟩] := by rfl
  exact ⟨path, (tokens_joined separates.1 path).1,
    ((tokens_joined separates.2 coordinates).2.2 plain).trans values⟩

/-- A number with an exponent does not come back as one token. -/
theorem tokens_thousand_parted :
    (∀ token ∈ ["M", "1e3", "0"], IsPathToken token) ∧
    tokens (" ".intercalate ["M", "1e3", "0"]) = ["M", "1", "e", "3", "0"] := by
  have move : IsPathToken "M" := .inl ⟨'M', by decide, rfl⟩
  have thousand : IsPathToken "1e3" := .inr (by decide +kernel)
  have zero : IsPathToken "0" := .inr (by decide +kernel)
  exact ⟨by simp [move, thousand, zero], rfl⟩

end Vignette.Path
