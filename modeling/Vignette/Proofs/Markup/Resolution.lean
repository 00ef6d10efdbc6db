import Vignette.Markup.Entity

namespace Vignette.Markup

/-! Which texts can have their references resolved: all but those with a reference by a decimal
number of more digits than are read. A reference takes up no ampersand behind its own, so that such
a number is met wherever it stands. -/

/-- Behind an ampersand: a decimal number with too many digits. -/
def StartsOverlong (behind : List Char) : Prop :=
  ∃ digits more, behind = '#' :: (digits ++ more) ∧ (∀ c ∈ digits, c.isDigit = true) ∧
    digitLimit < digits.length

def HasOverlong (text : List Char) : Prop :=
  ∃ before behind, text = before ++ '&' :: behind ∧ StartsOverlong behind

section Overlong

variable {c : Char} {text rest : List Char}

theorem not_hasOverlong_nil : ¬ HasOverlong [] := by
  rintro ⟨before, behind, whole, _⟩
  simp at whole

theorem hasOverlong_cons :
    HasOverlong (c :: rest) ↔ c = '&' ∧ StartsOverlong rest ∨ HasOverlong rest := by
  constructor
  · rintro ⟨before, behind, whole, overlong⟩
    cases before with
    | nil =>
        obtain ⟨rfl, rfl⟩ := List.cons.inj whole
        exact .inl ⟨rfl, overlong⟩
    | cons d before =>
        obtain ⟨rfl, rfl⟩ := List.cons.inj whole
        exact .inr ⟨before, behind, rfl, overlong⟩
  · rintro (⟨rfl, overlong⟩ | ⟨before, behind, rfl, overlong⟩)
    · exact ⟨[], rest, rfl, overlong⟩
    · exact ⟨c :: before, behind, rfl, overlong⟩

theorem hasOverlong_drop {count : Nat} (free : '&' ∉ text.take count) :
    HasOverlong (text.drop count) ↔ HasOverlong text := by
  constructor
  · rintro ⟨before, behind, whole, overlong⟩
    refine ⟨text.take count ++ before, behind, ?_, overlong⟩
    rw [List.append_assoc, ← whole, List.take_append_drop]
  · rintro ⟨before, behind, rfl, overlong⟩
    have enough : count ≤ before.length := by
      apply Nat.le_of_not_lt
      intro past
      apply free
      obtain ⟨more, rfl⟩ := Nat.exists_eq_add_of_lt past
      simp [List.take_append, Nat.add_assoc]
    exact ⟨before.drop count, behind, List.drop_append_of_le_length enough, overlong⟩

end Overlong

section Reference

variable {text digits : List Char} {reference : Reference}

theorem ampersand_free {front : List Char} (free : '&' ∉ front) (behind : List Char) :
    '&' ∉ (front ++ behind).take (front.length + semicolonLength behind) := by
  rw [List.take_length_add_append, List.mem_append, not_or]
  refine ⟨free, ?_⟩
  unfold semicolonLength
  split <;> simp

theorem numberedReference?_spec {front : List Char} {base : Nat} {isDigit : Char → Bool}
    (found : numberedReference? front.length base isDigit text = some reference)
    (free : '&' ∉ front) (noDigit : isDigit '&' = false) :
    '&' ∉ (front ++ text).take reference.length ∧
      ((∃ reason, reference.text = .error reason) ↔
        base = 10 ∧ digitLimit < (text.takeWhile isDigit).length) := by
  rw [numberedReference?] at found
  dsimp only at found
  split at found
  · contradiction
  · obtain rfl := Option.some.inj found
    constructor
    · have digitsFree : '&' ∉ text.takeWhile isDigit := fun member => by
        rw [List.all_eq_true.mp List.all_takeWhile '&' member] at noDigit
        contradiction
      have whole : front ++ text =
          (front ++ text.takeWhile isDigit) ++ text.dropWhile isDigit := by
        rw [List.append_assoc, List.takeWhile_append_dropWhile]
      rw [whole, ← List.length_append]
      exact ampersand_free (by simp [free, digitsFree]) _
    · dsimp only
      split <;> simp_all

theorem namedReference?_spec (found : namedReference? text = some reference) :
    '&' ∉ text.take reference.length ∧ ∃ resolved, reference.text = .ok resolved := by
  rw [namedReference?] at found
  dsimp only at found
  split at found
  · contradiction
  · have named : (text.take 32).takeWhile isEntityChar <+: text :=
      (List.takeWhile_prefix _).trans (List.take_prefix _ _)
    have nameFree : '&' ∉ (text.take 32).takeWhile isEntityChar := fun member => by
      have letter := List.all_eq_true.mp List.all_takeWhile '&' member
      contradiction
    generalize (text.take 32).takeWhile isEntityChar = name at found named nameFree
    obtain ⟨behind, rfl⟩ := named
    rw [List.drop_left] at found
    have free := ampersand_free nameFree behind
    have written : (name ++ behind).take
        ((name ++ behind).take (name.length + semicolonLength behind)).length =
          (name ++ behind).take (name.length + semicolonLength behind) := by
      rw [List.length_take, ← List.take_eq_take_min]
    split at found
    · obtain rfl := Option.some.inj found
      exact ⟨by rw [written]; exact free, _, rfl⟩
    · split at found
      all_goals
        obtain rfl := Option.some.inj found
        exact ⟨by rw [written]; exact free, _, rfl⟩

theorem startsOverlong_iff :
    StartsOverlong ('#' :: text) ↔ digitLimit < (text.takeWhile Char.isDigit).length := by
  constructor
  · rintro ⟨digits, more, whole, decimal, many⟩
    obtain rfl := (List.cons.inj whole).2
    rw [List.takeWhile_append_of_pos decimal, List.length_append]
    omega
  · intro many
    refine ⟨text.takeWhile Char.isDigit, text.dropWhile Char.isDigit, ?_, ?_, many⟩
    · rw [List.takeWhile_append_dropWhile]
    · exact fun c member => List.all_eq_true.mp List.all_takeWhile c member

/-- What stands behind an ampersand is a reference that takes up no further one. It stands for a
text unless it is a decimal number with too many digits. -/
theorem reference?_spec (found : reference? text = some reference) :
    '&' ∉ text.take reference.length ∧
      ((∃ reason, reference.text = .error reason) ↔ StartsOverlong text) := by
  unfold reference? at found
  split at found
  · obtain ⟨free, fails⟩ :=
      @numberedReference?_spec _ _ ['#', 'x'] _ _ found (by decide) (by decide)
    refine ⟨free, ?_⟩
    rw [fails, startsOverlong_iff]
    simp
  · obtain ⟨free, fails⟩ :=
      @numberedReference?_spec _ _ ['#', 'X'] _ _ found (by decide) (by decide)
    refine ⟨free, ?_⟩
    rw [fails, startsOverlong_iff]
    simp
  · obtain ⟨free, fails⟩ := @numberedReference?_spec _ _ ['#'] _ _ found (by decide) (by decide)
    refine ⟨free, ?_⟩
    rw [fails, startsOverlong_iff]
    simp
  · rename_i noNumber
    obtain ⟨free, resolved, known⟩ := namedReference?_spec found
    refine ⟨free, by simp [known], ?_⟩
    rintro ⟨digits, more, rfl, _⟩
    exact absurd rfl (noNumber _)

theorem reference?_of_startsOverlong (overlong : StartsOverlong text) :
    ∃ reference, reference? text = some reference := by
  unfold reference?
  split
  · rw [startsOverlong_iff] at overlong
    simp at overlong
  · rw [startsOverlong_iff] at overlong
    simp at overlong
  · rename_i behind _ _
    rw [startsOverlong_iff] at overlong
    have digits : (behind.takeWhile Char.isDigit).isEmpty = false := by
      rw [List.isEmpty_eq_false_iff, ← List.length_pos_iff]
      exact Nat.lt_of_le_of_lt (Nat.zero_le _) overlong
    rw [numberedReference?]
    dsimp only
    rw [digits, if_neg Bool.false_ne_true]
    exact ⟨_, rfl⟩
  · rename_i noNumber
    obtain ⟨digits, more, rfl, _⟩ := overlong
    exact absurd rfl (noNumber _)

end Reference

theorem succeeds_map {α β : Type} (f : α → β) (result : Except Fault α) :
    (∃ b, result.map f = .ok b) ↔ ∃ a, result = .ok a := by
  cases result <;> simp [Except.map]

theorem resolves_iff (text : List Char) :
    (∃ resolved, resolveReferences text = .ok resolved) ↔ ¬ HasOverlong text := by
  fun_induction resolveReferences text with
  | case1 => simp [not_hasOverlong_nil]
  | case2 rest reference found ih =>
      obtain ⟨free, fails⟩ := reference?_spec found
      -- No other reference begins in what this one takes up.
      rw [hasOverlong_drop free] at ih
      rw [hasOverlong_cons]
      cases own : reference.text with
      | error reason =>
          have overlong := fails.mp ⟨reason, own⟩
          simp [Except.bind, overlong]
      | ok resolved =>
          have fine : ¬ StartsOverlong rest := fun overlong => by
            obtain ⟨reason, failing⟩ := fails.mpr overlong
            rw [own] at failing
            contradiction
          rw [Except.bind, succeeds_map, ih]
          simp [fine]
  | case3 rest missing ih =>
      have fine : ¬ StartsOverlong rest := fun overlong => by
        obtain ⟨reference, found⟩ := reference?_of_startsOverlong overlong
        rw [missing] at found
        contradiction
      rw [succeeds_map, ih, hasOverlong_cons]
      simp [fine]
  | case4 c rest plain ih =>
      rw [succeeds_map, ih, hasOverlong_cons]
      simp [plain]

end Vignette.Markup
