namespace Vignette.Text

/-! Replacing the matches of a pattern. A pattern is given by the length of its match at the front
of a text, zero if there is none. Matches are sought from left to right and do not overlap. -/

variable {matched : List Char → Nat} {replacement : List Char → List Char}

/-- Replaces matches behind some characters that belong to the match before. -/
def replaceFrom (matched : List Char → Nat) (replacement : List Char → List Char) :
    Nat → List Char → List Char
  | _, [] => []
  | skipped + 1, _ :: rest => replaceFrom matched replacement skipped rest
  | 0, c :: rest =>
    match matched (c :: rest) with
    | 0 => c :: replaceFrom matched replacement 0 rest
    | more + 1 =>
      replacement ((c :: rest).take (more + 1)) ++ replaceFrom matched replacement more rest

def replaceMatches (matched : List Char → Nat) (replacement : List Char → List Char)
    (cs : List Char) : List Char :=
  replaceFrom matched replacement 0 cs

theorem replaceFrom_eq (skipped : Nat) (cs : List Char) :
    replaceFrom matched replacement skipped cs =
      replaceMatches matched replacement (cs.drop skipped) := by
  induction cs generalizing skipped with
  | nil => cases skipped <;> simp [replaceFrom, replaceMatches]
  | cons c rest ih =>
      cases skipped with
      | zero => rfl
      | succ skipped => exact ih skipped

@[simp] theorem replaceMatches_nil : replaceMatches matched replacement [] = [] := rfl

theorem replaceMatches_of_unmatched {c : Char} {rest : List Char}
    (unmatched : matched (c :: rest) = 0) :
    replaceMatches matched replacement (c :: rest) =
      c :: replaceMatches matched replacement rest := by
  simp [replaceMatches, replaceFrom, unmatched]

theorem replaceMatches_of_matched {c : Char} {rest : List Char} {more : Nat}
    (found : matched (c :: rest) = more + 1) :
    replaceMatches matched replacement (c :: rest) =
      replacement (c :: rest.take more) ++ replaceMatches matched replacement (rest.drop more) := by
  rw [replaceMatches, replaceFrom, found]
  simp only [List.take_succ_cons, replaceFrom_eq]

end Vignette.Text
