import Vignette.Text.Part

namespace Vignette.Text

/-! Texts that were put together of parts come apart into the same parts. Each lemma says what a
text must not hold for that. -/

variable {text before after : List Char}

theorem takeWhile_front {p : Char → Bool} (inside : ∀ c ∈ before, p c = true)
    (stops : ∀ c, after.head? = some c → p c = false) : (before ++ after).takeWhile p = before := by
  rw [List.takeWhile_append_of_pos inside]
  cases after with
  | nil => simp
  | cons c rest => simp [stops c rfl]

theorem dropWhile_front {p : Char → Bool} (inside : ∀ c ∈ before, p c = true)
    (stops : ∀ c, after.head? = some c → p c = false) : (before ++ after).dropWhile p = after := by
  rw [List.dropWhile_append_of_pos inside]
  cases after with
  | nil => rfl
  | cons c rest => simp [stops c rfl]

theorem cutAtFirst_append {mark : Char} (after : List Char) (absent : mark ∉ before) :
    cutAtFirst mark (before ++ mark :: after) = some (before, after) := by
  induction before with
  | nil => simp [cutAtFirst]
  | cons c rest ih =>
      rw [List.mem_cons, not_or] at absent
      rw [List.cons_append, cutAtFirst, if_neg (Ne.symm absent.1), ih absent.2]
      rfl

theorem cutAtFirst_eq_none {mark : Char} (absent : mark ∉ text) : cutAtFirst mark text = none := by
  induction text with
  | nil => rfl
  | cons c rest ih =>
      rw [List.mem_cons, not_or] at absent
      rw [cutAtFirst, if_neg (Ne.symm absent.1), ih absent.2]
      rfl

theorem splitAtEach_of_unseparated {separates : Char → Bool}
    (whole : ∀ c ∈ text, separates c = false) : splitAtEach separates text = [text] := by
  induction text with
  | nil => rfl
  | cons c rest ih =>
      rw [splitAtEach, if_neg (by simp [whole c List.mem_cons_self]),
        ih fun d member => whole d (List.mem_cons_of_mem c member)]
      rfl

theorem splitAtEach_append {separates : Char → Bool} {mark : Char} (after : List Char)
    (whole : ∀ c ∈ before, separates c = false) (separator : separates mark = true) :
    splitAtEach separates (before ++ mark :: after) = before :: splitAtEach separates after := by
  induction before with
  | nil => rw [List.nil_append, splitAtEach, if_pos separator]
  | cons c rest ih =>
      rw [List.cons_append, splitAtEach, if_neg (by simp [whole c List.mem_cons_self]),
        ih fun d member => whole d (List.mem_cons_of_mem c member)]
      rfl

theorem attach_append {c : Char} {parts : List (List Char)} (some : parts ≠ [])
    (more : List (List Char)) : attach c (parts ++ more) = attach c parts ++ more := by
  obtain ⟨first, rest, rfl⟩ := List.exists_cons_of_ne_nil some
  rfl

theorem splitAtEach_joined {separates : Char → Bool} {mark : Char} (before after : List Char)
    (separator : separates mark = true) :
    splitAtEach separates (before ++ mark :: after) =
      splitAtEach separates before ++ splitAtEach separates after := by
  induction before with
  | nil => simp [splitAtEach, separator]
  | cons c rest ih =>
      rw [List.cons_append, splitAtEach, splitAtEach, ih]
      split
      · rfl
      · exact attach_append (splitAtEach_ne_nil separates rest) _

theorem trimLeft_blanks (text : List Char) (blank : ∀ c ∈ before, isBlank c = true) :
    trimLeft (before ++ text) = trimLeft text := List.dropWhile_append_of_pos blank

theorem trim_of_solid_ends {first last : Char} (middle : List Char)
    (solidFirst : isBlank first = false) (solidLast : isBlank last = false) :
    trim (first :: middle ++ [last]) = first :: middle ++ [last] := by
  rw [trim, List.cons_append, trimLeft_of_not_blank solidFirst, ← List.cons_append,
    trimRight_snoc _ solidLast]

theorem trim_of_ends (first : ∀ c, text.head? = some c → isBlank c = false)
    (last : ∀ c, text.getLast? = some c → isBlank c = false) : trim text = text := by
  cases text with
  | nil => rfl
  | cons c rest =>
      rw [trim, trimLeft_of_not_blank (first c rfl)]
      exact trimRight_of_getLast? last

theorem trim_of_solid (solid : ∀ c ∈ text, isBlank c = false) : trim text = text :=
  trim_of_ends (fun c first => solid c (List.mem_of_head? first))
    fun c last => solid c (List.mem_of_getLast? last)

theorem prefix_trimRight (text : List Char) : trimRight text <+: text := by
  rw [trimRight, ← List.reverse_suffix, List.reverse_reverse]
  exact List.dropWhile_suffix _

/-- A text that trimming leaves alone has nothing to trim at its front either. -/
theorem trimLeft_of_trimmed (trimmed : trim text = text) : trimLeft text = text := by
  have shorter : (trim text).length ≤ (trimLeft text).length :=
    (prefix_trimRight (trimLeft text)).length_le
  rw [trimmed] at shorter
  have suffix : trimLeft text <:+ text := List.dropWhile_suffix _
  exact suffix.eq_of_length (Nat.le_antisymm suffix.length_le shorter)

theorem trim_padded (nonempty : text ≠ []) (trimmed : trim text = text)
    (blankBefore : ∀ c ∈ before, isBlank c = true) (blankAfter : ∀ c ∈ after, isBlank c = true) :
    trim (before ++ text ++ after) = text := by
  obtain ⟨c, rest, rfl⟩ := List.exists_cons_of_ne_nil nonempty
  have front := trimLeft_of_trimmed trimmed
  have solid : isBlank c = false := by
    apply Bool.eq_false_iff.mpr
    intro blank
    have shorter : (trimLeft rest).length ≤ rest.length := (List.dropWhile_suffix _).length_le
    rw [← trimLeft_of_blank blank, front, List.length_cons] at shorter
    omega
  rw [trim, List.append_assoc, trimLeft_blanks _ blankBefore, List.cons_append,
    trimLeft_of_not_blank solid, ← List.cons_append, trimRight_append_blanks _ blankAfter]
  rw [trim, front] at trimmed
  exact trimmed

theorem trimLeft_of_blanks (blank : ∀ c ∈ text, isBlank c = true) : trimLeft text = [] := by
  have gone := trimLeft_blanks [] blank
  rwa [List.append_nil] at gone

theorem trim_of_blanks (blank : ∀ c ∈ text, isBlank c = true) : trim text = [] := by
  rw [trim, trimLeft_of_blanks blank]
  rfl

/-- Trimming takes away blanks alone. -/
theorem exists_trimmed (text : List Char) : ∃ before after, text = before ++ trim text ++ after ∧
    (∀ c ∈ before, isBlank c = true) ∧ ∀ c ∈ after, isBlank c = true := by
  have blanks (text : List Char) : ∀ c ∈ text.takeWhile isBlank, isBlank c = true :=
    List.all_eq_true.mp List.all_takeWhile
  have front : text = text.takeWhile isBlank ++ trimLeft text :=
    List.takeWhile_append_dropWhile.symm
  have back : trimLeft text =
      trim text ++ ((trimLeft text).reverse.takeWhile isBlank).reverse := by
    rw [trim, trimRight, ← List.reverse_append, List.takeWhile_append_dropWhile,
      List.reverse_reverse]
  refine ⟨text.takeWhile isBlank, ((trimLeft text).reverse.takeWhile isBlank).reverse, ?_,
    blanks text, fun c member => blanks _ c (List.mem_reverse.mp member)⟩
  rw [List.append_assoc, ← back]
  exact front

/-- Blanks around a text make no difference to what trimming leaves of it. -/
theorem trim_surrounded (text : List Char) (blankBefore : ∀ c ∈ before, isBlank c = true)
    (blankAfter : ∀ c ∈ after, isBlank c = true) : trim (before ++ text ++ after) = trim text := by
  rw [trim, List.append_assoc, trimLeft_blanks _ blankBefore, trim]
  have led : trimLeft (text ++ after) =
      if (trimLeft text).isEmpty then trimLeft after else trimLeft text ++ after :=
    List.dropWhile_append
  rw [led]
  split
  · next none =>
      rw [trimLeft_of_blanks blankAfter, List.isEmpty_iff.mp none]
  · exact trimRight_append_blanks _ blankAfter

theorem cutAtFirst_surrounded {mark : Char} (text : List Char) (absentBefore : mark ∉ before)
    (absentAfter : mark ∉ after) :
    cutAtFirst mark (before ++ text ++ after) =
      (cutAtFirst mark text).map fun cut => (before ++ cut.1, cut.2 ++ after) := by
  by_cases member : mark ∈ text
  · obtain ⟨front, back, rfl, absent⟩ := List.eq_append_cons_of_mem member
    have whole : mark ∉ before ++ front := by simp [absentBefore, absent]
    have placed : before ++ (front ++ mark :: back) ++ after =
        (before ++ front) ++ mark :: (back ++ after) := by simp
    rw [placed, cutAtFirst_append _ whole, cutAtFirst_append _ absent]
    rfl
  · rw [cutAtFirst_eq_none member, cutAtFirst_eq_none (by simp [absentBefore, member, absentAfter])]
    rfl

end Vignette.Text
