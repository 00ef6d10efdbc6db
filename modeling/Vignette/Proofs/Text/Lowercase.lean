import Vignette.Text.Lowercase

namespace Vignette.Text

/-! A text in lower case is left alone by lower case: no small letter is a capital of any row. -/

def CaseRow.Holds (row : CaseRow) (point : Nat) : Prop :=
  row.first ≤ point ∧ point ≤ row.last ∧ (point - row.first) % row.step = 0

instance (row : CaseRow) (point : Nat) : Decidable (row.Holds point) :=
  inferInstanceAs (Decidable (_ ∧ _))

def CaseRow.small (row : CaseRow) (point : Nat) : Nat := ((point : Int) + row.shift).toNat

/-- All capitals: those of the rows, and the one with two characters for its small letter. -/
def capitalRows : List CaseRow := ⟨0x130, 0x130, 1, 0⟩ :: caseRows

/-- A quick check that no small letter of a row is a capital of another row: the two lie apart, or
the small letters fall between the capitals. -/
def CaseRow.liesApart (row other : CaseRow) : Bool :=
  Nat.blt (row.small row.last) other.first || Nat.blt other.last (row.small row.first) ||
    ((row.step == 2 || row.first == row.last) && other.step == 2 &&
      (row.small row.first + other.first) % 2 == 1)

def CaseRow.isSound (row : CaseRow) : Bool :=
  decide (0 ≤ (row.first : Int) + row.shift) && capitalRows.all row.liesApart

theorem caseRows_sound : caseRows.all CaseRow.isSound = true := by decide +kernel

section Rows

variable {row other : CaseRow} {rows : List CaseRow} {point : Nat}

theorem lowerInRows_of_unheld (unheld : ∀ row ∈ rows, ¬ row.Holds point) :
    lowerInRows rows point = point := by
  induction rows with
  | nil => rfl
  | cons row rest ih =>
      have here := unheld row List.mem_cons_self
      rw [lowerInRows]
      split
      · rfl
      · rename_i reached
        rw [if_neg fun held => here ⟨Nat.le_of_not_lt reached, held⟩,
          ih fun other member => unheld other (List.mem_cons_of_mem _ member)]

theorem lowerInRows_cases (rows : List CaseRow) (point : Nat) :
    lowerInRows rows point = point ∨
      ∃ row ∈ rows, row.Holds point ∧ lowerInRows rows point = row.small point := by
  induction rows with
  | nil => exact .inl rfl
  | cons row rest ih =>
      rw [lowerInRows]
      split
      · exact .inl rfl
      · rename_i reached
        split
        · rename_i held
          exact .inr ⟨row, List.mem_cons_self, ⟨Nat.le_of_not_lt reached, held⟩, rfl⟩
        · rcases ih with same | ⟨other, member, held, found⟩
          · exact .inl same
          · exact .inr ⟨other, List.mem_cons_of_mem _ member, held, found⟩

theorem CaseRow.not_holds_small (positive : 0 ≤ (row.first : Int) + row.shift)
    (apart : row.liesApart other = true) (held : row.Holds point) :
    ¬ other.Holds (row.small point) := by
  rintro ⟨above, below, even⟩
  obtain ⟨first, last, step⟩ := held
  simp only [liesApart, Bool.or_eq_true, Bool.and_eq_true, Nat.blt_eq, beq_iff_eq] at apart
  simp only [small] at *
  rcases apart with (before | behind) | ⟨⟨steps, otherStep⟩, odd⟩
  · omega
  · omega
  · rw [otherStep] at even
    rcases steps with two | single
    · rw [two] at step
      omega
    · omega

theorem small_unheld (member : row ∈ caseRows) (held : row.Holds point) :
    ∀ other ∈ capitalRows, ¬ other.Holds (row.small point) := by
  have sound := List.all_eq_true.mp caseRows_sound row member
  rw [CaseRow.isSound, Bool.and_eq_true, decide_eq_true_eq, List.all_eq_true] at sound
  exact fun other among => CaseRow.not_holds_small sound.1 (sound.2 other among) held

end Rows

/-- A character that lower case leaves alone wherever it stands. -/
def IsSmall (c : Char) : Prop := c.toNat ≠ 0x3A3 ∧ lowerChar c = [c]

instance (c : Char) : Decidable (IsSmall c) := inferInstanceAs (Decidable (_ ∧ _))

theorem isSmall_of_point {point : Nat} (stays : lowerInRows caseRows point = point)
    (noSigma : point ≠ 0x3A3) (noDotted : point ≠ 0x130) : IsSmall (Char.ofNat point) := by
  by_cases valid : point.isValidChar
  · have same : (Char.ofNat point).toNat = point := by
      rw [Char.ofNat, dif_pos valid]
      rfl
    refine ⟨by rw [same]; exact noSigma, ?_⟩
    rw [lowerChar, same, if_neg noDotted, stays]
  · rw [Char.ofNat, dif_neg valid]
    decide

theorem lowerChar_isSmall {c : Char} (noSigma : c.toNat ≠ 0x3A3) :
    ∀ d ∈ lowerChar c, IsSmall d := by
  rw [lowerChar]
  split
  · intro d member
    simp only [List.mem_cons, List.not_mem_nil, or_false] at member
    rcases member with rfl | rfl
    all_goals decide
  · rename_i noDotted
    intro d member
    rw [List.mem_singleton.mp member]
    rcases lowerInRows_cases caseRows c.toNat with same | ⟨row, among, held, found⟩
    · rw [same]
      exact isSmall_of_point same noSigma noDotted
    · have unheld := small_unheld among held
      rw [found]
      refine isSmall_of_point (lowerInRows_of_unheld fun other behind =>
        unheld other (List.mem_cons_of_mem _ behind)) ?_ ?_
      · intro sigma
        rw [sigma] at unheld
        have greek : ∃ other ∈ capitalRows, other.Holds 0x3A3 := by decide
        obtain ⟨other, behind, holds⟩ := greek
        exact unheld other behind holds
      · intro dotted
        exact unheld _ List.mem_cons_self (by rw [dotted]; decide)

theorem lowerAfter_isSmall (before text : List Char) : ∀ c ∈ lowerAfter before text, IsSmall c := by
  induction text generalizing before with
  | nil => simp [lowerAfter]
  | cons c rest ih =>
      rw [lowerAfter]
      intro d member
      rcases List.mem_append.mp member with here | later
      · split at here
        · rw [List.mem_singleton.mp here]
          split <;> decide
        · rename_i noSigma
          exact lowerChar_isSmall noSigma d here
      · exact ih (c :: before) d later

theorem lowerAfter_of_isSmall {text : List Char} (small : ∀ c ∈ text, IsSmall c)
    (before : List Char) : lowerAfter before text = text := by
  induction text generalizing before with
  | nil => rfl
  | cons c rest ih =>
      obtain ⟨noSigma, alone⟩ := small c List.mem_cons_self
      rw [lowerAfter, if_neg noSigma, alone,
        ih (fun d member => small d (List.mem_cons_of_mem _ member))]
      rfl

theorem lowerChars_lowerChars (text : List Char) :
    lowerChars (lowerChars text) = lowerChars text :=
  lowerAfter_of_isSmall (lowerAfter_isSmall [] text) []

theorem lower_lower (text : String) : lower (lower text) = lower text := by
  rw [lower, lower, String.toList_ofList, lowerChars_lowerChars]

end Vignette.Text
