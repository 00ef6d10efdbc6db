namespace Vignette.Text

/-! Sets of code points, given as closed ranges in ascending order. -/

/-- Whether a code point lies in one of the ranges. Because they ascend, the search ends at the
first range that begins above the code point. -/
def inRanges : List (Nat × Nat) → Nat → Bool
  | [], _ => false
  | (first, last) :: rest, point =>
    if point < first then false else decide (point ≤ last) || inRanges rest point

theorem range_of_inRanges {ranges : List (Nat × Nat)} {point : Nat}
    (found : inRanges ranges point = true) :
    ∃ range ∈ ranges, range.1 ≤ point ∧ point ≤ range.2 := by
  induction ranges with
  | nil => simp [inRanges] at found
  | cons range rest ih =>
      obtain ⟨first, last⟩ := range
      simp only [inRanges] at found
      split at found
      · contradiction
      · rcases Bool.or_eq_true_iff.mp found with here | later
        · exact ⟨(first, last), List.mem_cons_self, by omega, of_decide_eq_true here⟩
        · obtain ⟨range, member, bounds⟩ := ih later
          exact ⟨range, List.mem_cons_of_mem _ member, bounds⟩

end Vignette.Text
