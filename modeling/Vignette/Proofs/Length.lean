import Vignette.FreeNumeral
import Vignette.Length
import Vignette.Proofs.Numeral
import Vignette.Proofs.Text.Classes

namespace Vignette

/-! Lengths by their texts. A text can write a number and a unit in one way only. It is read as
these, and a text that writes none is read as no length. -/

open Text (isBlank isDigit)

/-! ### The characters of a literal -/

namespace Literal

variable (literal : Literal)

theorem text_cases :
    ∀ c ∈ literal.text, isDigit c = true ∨ c ∈ ['+', '-', '.', 'e', 'E'] := by
  have inSign {sign : List Char} (signed : IsSign sign) : ∀ c ∈ sign, c ∈ ['+', '-'] := by
    cases signed with
    | absent => simp
    | plus | minus => simp
  intro c member
  simp only [text, List.mem_append] at member
  rcases member with sign | whole | fraction | exponent
  · exact .inr (List.mem_append_left _ (inSign literal.signed c sign))
  · exact .inl (literal.all c whole)
  · have pointed := literal.pointed
    generalize literal.fraction = text at pointed fraction
    cases pointed with
    | absent => simp at fraction
    | point all =>
        rcases List.mem_cons.mp fraction with rfl | place
        · exact .inr (by decide)
        · exact .inl (all c place)
  · rcases literal.powered with none | powered
    · simp [none] at exponent
    · generalize literal.exponent = text at powered exponent
      obtain ⟨mark, signed, all, _⟩ := powered
      rcases List.mem_cons.mp exponent with rfl | behind
      · rcases mark with rfl | rfl
        all_goals exact .inr (by decide)
      · rcases List.mem_append.mp behind with sign | digit
        · exact .inr (List.mem_append_left _ (inSign signed c sign))
        · exact .inl (all c digit)

theorem isBlank_of_mem_text : ∀ c ∈ literal.text, isBlank c = false := by
  intro c member
  rcases literal.text_cases c member with digit | mark
  · exact Text.isBlank_of_isDigit digit
  · have marks : ∀ mark ∈ ['+', '-', '.', 'e', 'E'], isBlank mark = false := by
      simp only [List.forall_mem_cons, List.not_mem_nil, false_implies, implies_true]
      decide
    exact marks c mark

theorem text_ne_nil : literal.text ≠ [] := by
  obtain ⟨c, member, _⟩ := literal.exists_digit
  rw [text, ← List.append_assoc literal.whole]
  exact List.ne_nil_of_mem (List.mem_append_right _ (List.mem_append_left _ member))

theorem dropGroupMarks_eq_some {text : List Char} (ungrouped : '_' ∉ text) (previous : Bool) :
    dropGroupMarks previous text = some text := by
  induction text generalizing previous with
  | nil => rfl
  | cons c rest ih =>
      rw [List.mem_cons, not_or] at ungrouped
      rw [dropGroupMarks, if_neg (Ne.symm ungrouped.1), ih ungrouped.2]
      rfl

/-- Read in free form, a literal is the number it stands for too. -/
theorem freeNumber?_text : freeNumber? literal.text = some literal.numeral.toFloat := by
  have unpadded {text : List Char} (within : ∀ c ∈ text, c ∈ literal.text) :
      text.dropWhile isPadding = text := by
    refine Text.dropWhile_front (List.forall_mem_nil _) fun c found => ?_
    rw [isPadding, literal.isBlank_of_mem_text c (within c (List.mem_of_head? found)),
      Bool.false_and]
  have body : withoutPadding literal.text = literal.text := by
    rw [withoutPadding, unpadded fun c member => member,
      unpadded fun c member => List.mem_reverse.mp member, List.reverse_reverse]
  have unsigned := literal.takeSign_text []
  rw [List.append_nil, List.append_nil] at unsigned
  have other {word : String} (digitless : word.toList.any isDigit = false) :
      literal.whole ++ (literal.fraction ++ literal.exponent) ≠ word.toList := by
    intro same
    obtain ⟨c, member, digit⟩ := literal.exists_digit
    rw [← List.append_assoc] at same
    exact List.any_eq_false.mp digitless c (same ▸ List.mem_append_left _ member) digit
  have ungrouped : '_' ∉ literal.text := fun member =>
    (literal.text_cases '_' member).elim (by decide) (by decide)
  rw [freeNumber?, body, unsigned]
  dsimp only
  rw [if_neg (not_or.mpr ⟨other rfl, other rfl⟩), if_neg (other rfl),
    dropGroupMarks_eq_some ungrouped, Option.bind_some, literal.read?_text]
  rfl

end Literal

namespace Length

/-- A text that holds a literal, a unit behind it, and otherwise blanks alone. -/
structure Writes (text : List Char) (literal : Literal) (unit : List Char) : Prop where
  placed : ∃ before between after, text = before ++ (literal.text ++ (between ++ unit)) ++ after ∧
    (∀ c ∈ before, isBlank c = true) ∧ (∀ c ∈ between, isBlank c = true) ∧
    ∀ c ∈ after, isBlank c = true
  isUnit : ∀ c ∈ unit, isUnitChar c = true

theorem isUnitChar_cases {c : Char} (unit : isUnitChar c = true) : c.isAlpha = true ∨ c = '%' := by
  simpa [isUnitChar] using unit

theorem isBlank_of_isUnitChar {c : Char} (unit : isUnitChar c = true) : isBlank c = false := by
  rcases isUnitChar_cases unit with letter | rfl
  · exact Text.isBlank_of_isAlpha letter
  · decide

/-- No character behind a number can belong to it. -/
theorem ends_of_isUnitChar {c : Char} (behind : isBlank c = true ∨ isUnitChar c = true) :
    isDigit c = false ∧ c ≠ '.' := by
  rcases behind with blank | unit
  · exact ⟨Text.isDigit_of_isBlank blank, Text.ne_of_class blank (by decide)⟩
  · refine ⟨?_, Text.ne_of_class unit (by decide)⟩
    rcases isUnitChar_cases unit with letter | rfl
    · exact Text.isDigit_of_isAlpha letter
    · decide

section Writes

variable {text unit : List Char} {literal : Literal}

/-- Trimmed, the text begins with the literal, and blanks stand at most between it and the unit. -/
theorem Writes.trim_eq (writes : Writes text literal unit) :
    ∃ between, Text.trim text = literal.text ++ (between ++ unit) ∧
      ∀ c ∈ between, isBlank c = true := by
  obtain ⟨⟨before, between, after, rfl, blankBefore, blankBetween, blankAfter⟩, isUnit⟩ := writes
  rw [Text.trim_surrounded _ blankBefore blankAfter]
  rcases List.eq_nil_or_concat unit with rfl | ⟨front, last, rfl⟩
  · have surrounded := @Text.trim_surrounded [] between literal.text (by simp) blankBetween
    refine ⟨[], ?_, by simp⟩
    rw [List.nil_append] at surrounded
    rw [List.append_nil, surrounded, Text.trim_of_solid literal.isBlank_of_mem_text]
    simp
  · refine ⟨between, Text.trim_of_ends ?_ ?_, blankBetween⟩
    · obtain ⟨first, rest, whole⟩ := List.exists_cons_of_ne_nil literal.text_ne_nil
      intro c found
      rw [whole] at found
      obtain rfl := Option.some.inj found
      exact literal.isBlank_of_mem_text first (by simp [whole])
    · intro c found
      rw [List.concat_eq_append] at found isUnit
      rw [← List.append_assoc, ← List.append_assoc, List.getLast?_concat] at found
      obtain rfl := Option.some.inj found
      exact isBlank_of_isUnitChar (isUnit last (by simp))

/-- A scan takes just the literal, and blanks lead to the unit. -/
theorem Writes.scan?_eq (writes : Writes text literal unit) :
    ∃ behind, Text.trim text = literal.text ++ behind ∧ behind.dropWhile isBlank = unit ∧
      Numeral.scan? (Text.trim text) = some (literal.numeral, behind) := by
  obtain ⟨between, trimmed, blank⟩ := writes.trim_eq
  refine ⟨between ++ unit, trimmed, ?_, ?_⟩
  · exact Text.dropWhile_front blank fun c found =>
      isBlank_of_isUnitChar (writes.isUnit c (List.mem_of_head? found))
  · rw [trimmed]
    apply literal.scan?_text
    intro c member
    exact ends_of_isUnitChar ((List.mem_append.mp member).imp (blank c) (writes.isUnit c))

theorem Writes.unique {other : Literal} {also : List Char} (writes : Writes text literal unit)
    (again : Writes text other also) : other.text = literal.text ∧ also = unit := by
  obtain ⟨behind, trimmed, leads, scanned⟩ := writes.scan?_eq
  obtain ⟨rest, trimmedAgain, leadsAgain, scannedAgain⟩ := again.scan?_eq
  rw [scanned] at scannedAgain
  obtain ⟨-, rfl⟩ := Prod.mk.inj (Option.some.inj scannedAgain)
  rw [trimmed] at trimmedAgain
  exact ⟨(List.append_cancel_right trimmedAgain).symm, leadsAgain.symm.trans leads⟩

end Writes

section Reading

variable {text : String}

theorem ofString_of_writes {literal : Literal} {unit : List Char}
    (writes : Writes text.toList literal unit) :
    ofString text = ⟨literal.numeral.toFloat, String.ofList unit⟩ := by
  obtain ⟨behind, _, leads, scanned⟩ := writes.scan?_eq
  rw [ofString, scanned]
  dsimp only
  rw [leads, if_pos (List.all_eq_true.mpr writes.isUnit)]

theorem ofString_of_unwritten
    (unwritten : ∀ literal unit, ¬ Writes text.toList literal unit) : ofString text = zero := by
  unfold ofString
  split
  · rfl
  · next numeral behind scanned =>
      dsimp only
      split
      · next all =>
          obtain ⟨literal, trimmed, _⟩ := Numeral.literal_of_scan scanned
          obtain ⟨before, after, placed, blankBefore, blankAfter⟩ :=
            Text.exists_trimmed text.toList
          rw [trimmed, ← List.takeWhile_append_dropWhile (p := isBlank) (l := behind)] at placed
          exact absurd ⟨⟨before, _, after, placed, blankBefore,
            List.all_eq_true.mp List.all_takeWhile, blankAfter⟩, List.all_eq_true.mp all⟩
            (unwritten literal _)
      · rfl

theorem exists_writes_of_number? {value : Float} (read : number? text = some value) :
    ∃ literal : Literal, Writes text.toList literal [] ∧ literal.numeral.toFloat = value := by
  obtain ⟨numeral, found, finite⟩ := Option.bind_eq_some_iff.mp read
  split at finite
  · obtain ⟨literal, same, rfl⟩ := Numeral.literal_of_read found
    exact ⟨literal, ⟨⟨[], [], [], by simp [same], by simp, by simp, by simp⟩, by simp⟩,
      Option.some.inj finite⟩
  · contradiction

end Reading

/-- A text is read as the number and the unit that are written in it, of which there are no others.
A text with none is read as no length, and a number alone as itself. -/
theorem ofString_split (text : String) :
    (∀ literal unit, Writes text.toList literal unit →
      ofString text = ⟨literal.numeral.toFloat, String.ofList unit⟩ ∧
      freeNumber? literal.text = some literal.numeral.toFloat ∧
      ∀ other also, Writes text.toList other also → other.text = literal.text ∧ also = unit) ∧
    ((∀ literal unit, ¬ Writes text.toList literal unit) → ofString text = zero) ∧
    ∀ value, number? text = some value → ofString text = ⟨value, ""⟩ := by
  refine ⟨fun literal unit writes => ?_, ofString_of_unwritten, fun value read => ?_⟩
  · exact ⟨ofString_of_writes writes, literal.freeNumber?_text, fun other also => writes.unique⟩
  · obtain ⟨literal, writes, rfl⟩ := exists_writes_of_number? read
    exact ofString_of_writes writes

/-- Twenty, with a point that nothing stands behind. -/
def twenty : Literal where
  sign := []
  whole := ['2']
  fraction := ['.']
  exponent := ['e', '1']
  signed := .absent
  all := List.all_eq_true.mp rfl
  pointed := .point (List.forall_mem_nil _)
  powered := .inr (@IsExponent.mk 'e' [] ['1'] (.inl rfl) .absent (List.all_eq_true.mp rfl)
    (List.cons_ne_nil _ _))
  digit := .inl (by simp)

/-- Of the two letters that could begin an exponent, only one has digits behind it. -/
theorem ofString_split_twenty :
    Writes "\t2.e1em \n".toList twenty "em".toList ∧ ofString "\t2.e1em \n" = ⟨20, "em"⟩ ∧
      number? "-.5" = some (-0.5) ∧ ofString "-.5" = ⟨-0.5, ""⟩ := by
  have writes : Writes "\t2.e1em \n".toList twenty "em".toList :=
    ⟨⟨['\t'], [], [' ', '\n'], rfl, List.all_eq_true.mp rfl, List.all_eq_true.mp rfl,
      List.all_eq_true.mp rfl⟩, List.all_eq_true.mp rfl⟩
  have value : twenty.numeral.toFloat = 20 := by rfl
  have half : number? "-.5" = some (-0.5) := by rfl
  obtain ⟨read, _, _⟩ := (ofString_split "\t2.e1em \n").1 twenty "em".toList writes
  rw [value] at read
  exact ⟨writes, read, half, (ofString_split "-.5").2.2 _ half⟩

end Length

end Vignette
