import Vignette.Text.Blank

namespace Vignette.Text

/-! Cutting texts into parts: trimming, splitting at separators, words.

Every part is a list of characters; the functions on strings at the end only convert. -/

def trimLeft (cs : List Char) : List Char := cs.dropWhile isBlank

def trimRight (cs : List Char) : List Char := (cs.reverse.dropWhile isBlank).reverse

def trim (cs : List Char) : List Char := trimRight (trimLeft cs)

def attach (c : Char) : List (List Char) → List (List Char)
  | [] => [[c]]
  | part :: parts => (c :: part) :: parts

/-- The parts between separators, empty ones included: one part more than there are separators. -/
def splitAtEach (separates : Char → Bool) : List Char → List (List Char)
  | [] => [[]]
  | c :: rest =>
    if separates c then [] :: splitAtEach separates rest
    else attach c (splitAtEach separates rest)

/-- The text before and the text after the first occurrence of a character. -/
def cutAtFirst (mark : Char) : List Char → Option (List Char × List Char)
  | [] => none
  | c :: rest =>
    if c = mark then some ([], rest)
    else (cutAtFirst mark rest).map fun cut => (c :: cut.1, cut.2)

/-- The text before and the text after the first occurrence of a phrase. -/
def cutAtPhrase (phrase : List Char) : List Char → Option (List Char × List Char)
  | [] => if phrase.isEmpty then some ([], []) else none
  | c :: rest =>
    if phrase.isPrefixOf (c :: rest) then some ([], (c :: rest).drop phrase.length)
    else (cutAtPhrase phrase rest).map fun cut => (c :: cut.1, cut.2)

/-- The words of a text: its longest parts without blanks. -/
def words (cs : List Char) : List (List Char) :=
  (splitAtEach isBlank cs).filter fun part => !part.isEmpty

theorem trimLeft_of_blank {c : Char} {rest : List Char} (blank : isBlank c = true) :
    trimLeft (c :: rest) = trimLeft rest := by
  rw [trimLeft, List.dropWhile_cons_of_pos blank, trimLeft]

theorem trimLeft_of_not_blank {c : Char} {rest : List Char} (solid : isBlank c = false) :
    trimLeft (c :: rest) = c :: rest := by
  rw [trimLeft, List.dropWhile_cons_of_neg (by simp [solid])]

theorem trimRight_snoc {c : Char} (before : List Char) (solid : isBlank c = false) :
    trimRight (before ++ [c]) = before ++ [c] := by
  simp [trimRight, solid]

theorem trimRight_of_getLast? {text : List Char}
    (solid : ∀ c, text.getLast? = some c → isBlank c = false) : trimRight text = text := by
  rcases List.eq_nil_or_concat text with rfl | ⟨before, last, rfl⟩
  · rfl
  · rw [List.concat_eq_append] at solid ⊢
    exact trimRight_snoc before (solid last (by simp))

theorem trimRight_append_blanks {blanks : List Char} (text : List Char)
    (blank : ∀ c ∈ blanks, isBlank c = true) : trimRight (text ++ blanks) = trimRight text := by
  rw [trimRight, List.reverse_append, List.dropWhile_append_of_pos, trimRight]
  intro c member
  exact blank c (List.mem_reverse.mp member)

theorem splitAtEach_ne_nil (separates : Char → Bool) (cs : List Char) :
    splitAtEach separates cs ≠ [] := by
  cases cs with
  | nil => simp [splitAtEach]
  | cons c rest =>
      simp only [splitAtEach]
      split
      · simp
      · cases splitAtEach separates rest <;> simp [attach]

theorem cutAtFirst_eq_append {mark : Char} {cs before after : List Char}
    (cut : cutAtFirst mark cs = some (before, after)) : cs = before ++ mark :: after := by
  induction cs generalizing before with
  | nil => simp [cutAtFirst] at cut
  | cons c rest ih =>
      simp only [cutAtFirst] at cut
      split at cut
      · cases cut; simp_all
      · obtain ⟨⟨first, second⟩, found, same⟩ := Option.map_eq_some_iff.mp cut
        cases same
        simp [ih found]

theorem cutAtPhrase_length {phrase cs before after : List Char}
    (cut : cutAtPhrase phrase cs = some (before, after)) : after.length ≤ cs.length := by
  induction cs generalizing before with
  | nil =>
      simp only [cutAtPhrase] at cut
      split at cut
      · cases cut; simp
      · contradiction
  | cons c rest ih =>
      simp only [cutAtPhrase] at cut
      split at cut
      · cases cut; simp only [List.length_drop]; omega
      · obtain ⟨⟨first, second⟩, found, same⟩ := Option.map_eq_some_iff.mp cut
        cases same
        exact Nat.le_succ_of_le (ih found)

def trimmed (s : String) : String := String.ofList (trim s.toList)

def isBlankText (s : String) : Bool := s.toList.all isBlank

end Vignette.Text
