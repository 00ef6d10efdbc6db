import Vignette.Color.Reading

namespace Vignette.Color

/-! Which texts have no color, not even black: functional colors in which an infinite number comes
before any that makes no sense, and whole numbers of more digits than are read. -/

open Scalar

/-- The number that a channel of a functional color is made from. -/
def channelNumber? (text : List Char) : Option Float :=
  match text.reverse with
  | '%' :: reversed => (freeNumber? reversed.reverse).map (· * 2.55)
  | _ => freeNumber? text

/-- What becomes of a number where a whole one is needed. -/
inductive Wholeness (x : Float) : Except ColorRefusal Int → Prop where
  | finite (n : Int) (finite : isFinite x = true) : Wholeness x (.ok n)
  | infinite (endless : isFinite x = false) (infinite : isInfinite x = true) :
    Wholeness x (.error (.fault .tooLarge))
  | undefined (endless : isFinite x = false) (undefined : isInfinite x = false) :
    Wholeness x (.error .senseless)

theorem wholeness (x : Float) (n : Int) :
    Wholeness x (wholeOperand (if isFinite x then .ok n
      else if isInfinite x then .error .tooLarge else .error .undefined)) := by
  cases finite : isFinite x with
  | true => exact .finite n finite
  | false =>
      cases infinite : isInfinite x with
      | true => exact .infinite finite infinite
      | false => exact .undefined finite infinite

theorem channel_percentage {text reversed : List Char} (percentage : text.reverse = '%' :: reversed) :
    channelNumber? text = (freeNumber? reversed.reverse).map (· * 2.55) ∧
      channel text = (operand reversed.reverse).bind fun x => wholeOperand (rounded (x * 2.55)) := by
  rw [channelNumber?, channel, percentage]
  exact ⟨rfl, rfl⟩

theorem channel_plain {text : List Char} (plain : ∀ reversed, text.reverse ≠ '%' :: reversed) :
    channelNumber? text = freeNumber? text ∧
      channel text = (operand text).bind fun x => wholeOperand (wholePart x) := by
  constructor
  · unfold channelNumber?
    split
    · exact absurd ‹_› (plain _)
    · rfl
  · unfold channel
    split
    · exact absurd ‹_› (plain _)
    · rfl

theorem channel_spec (text : List Char) :
    channelNumber? text = none ∧ channel text = .error .senseless ∨
      ∃ x, channelNumber? text = some x ∧ Wholeness x (channel text) := by
  by_cases percent : ∃ reversed, text.reverse = '%' :: reversed
  · obtain ⟨reversed, percentage⟩ := percent
    obtain ⟨number, read⟩ := channel_percentage percentage
    rw [number, read, operand]
    cases freeNumber? reversed.reverse with
    | none => exact .inl ⟨rfl, rfl⟩
    | some x => exact .inr ⟨_, rfl, wholeness (x * 2.55) (nearest (x * 2.55))⟩
  · obtain ⟨number, read⟩ := channel_plain (not_exists.mp percent)
    rw [number, read, operand]
    cases freeNumber? text with
    | none => exact .inl ⟨rfl, rfl⟩
    | some x => exact .inr ⟨_, rfl, wholeness x (truncate x)⟩

/-- Whether the first of some numbers that is not finite is infinite. -/
def Endless (numbers : List (Option Float)) : Prop :=
  ∃ x, numbers.find? (fun number => !number.any isFinite) = some (some x) ∧ isInfinite x = true

theorem not_endless_nil : ¬ Endless [] := by
  rintro ⟨x, found, _⟩
  cases found

theorem endless_cons_of_finite {x : Float} (finite : isFinite x = true)
    (numbers : List (Option Float)) : Endless (some x :: numbers) ↔ Endless numbers := by
  rw [Endless, List.find?_cons_of_neg (by simp [finite]), Endless]

theorem endless_cons_of_endless {x : Float} (endless : isFinite x = false)
    (numbers : List (Option Float)) :
    Endless (some x :: numbers) ↔ isInfinite x = true := by
  rw [Endless, List.find?_cons_of_pos (by simp [endless])]
  simp

theorem not_endless_cons_none (numbers : List (Option Float)) : ¬ Endless (none :: numbers) := by
  rw [Endless, List.find?_cons_of_pos rfl]
  simp

variable {β : Type} {reason : Fault}

theorem channel_bind_eq_fault {numbers : List (Option Float)} (text : List Char)
    {next : Int → Except ColorRefusal β}
    (onward : ∀ n, next n = .error (.fault reason) ↔ reason = .tooLarge ∧ Endless numbers) :
    (channel text).bind next = .error (.fault reason) ↔
      reason = .tooLarge ∧ Endless (channelNumber? text :: numbers) := by
  rcases channel_spec text with ⟨missing, refused⟩ | ⟨x, read, outcome⟩
  · rw [refused, missing]
    simp [Except.bind, not_endless_cons_none]
  · rw [read]
    generalize channel text = result at outcome ⊢
    cases outcome with
    | finite n finite => rw [endless_cons_of_finite finite, ← onward n]; rfl
    | infinite endless infinite =>
        simp [Except.bind, endless_cons_of_endless endless, infinite, eq_comm]
    | undefined endless undefined =>
        simp [Except.bind, endless_cons_of_endless endless, undefined]

/-- The color of arguments ends in a fault only through its channels; an opacity that makes no sense
makes the color black. -/
theorem ofArguments_eq_fault (arguments : List (List Char)) (reason : Fault) :
    ofArguments arguments = .error (.fault reason) ↔ reason = .tooLarge ∧
      3 ≤ arguments.length ∧ Endless ((arguments.take 3).map channelNumber?) := by
  unfold ofArguments
  split
  · rename_i first second third rest
    have three : 3 ≤ (first :: second :: third :: rest).length := by simp
    rw [and_iff_right three]
    refine channel_bind_eq_fault first fun red => channel_bind_eq_fault second fun green =>
      channel_bind_eq_fault third fun blue => ?_
    refine iff_of_false ?_ fun both => not_endless_nil both.2
    cases rest with
    | nil => intro failed; cases failed
    | cons fourth _ =>
        simp only [operand]
        cases freeNumber? fourth <;> intro failed <;> cases failed
  · rename_i fewer
    refine iff_of_false (by simp) fun long => ?_
    obtain ⟨_, three, _⟩ := long
    match arguments, three with
    | first :: second :: third :: rest, _ => exact fewer first second third rest rfl

def leadingDigits (text : List Char) : List Char := (takeSign text).2.takeWhile Text.isDigit

theorem leadingWhole?_eq_error (text : List Char) (reason : Fault) :
    leadingWhole? text = .error reason ↔
      reason = .tooManyDigits (leadingDigits text).length ∧
        digitLimit < (leadingDigits text).length := by
  rw [leadingWhole?]
  change (if (leadingDigits text).isEmpty then _ else
    (wholeOfDigits (takeSign text).1 (leadingDigits text)).map some) = _ ↔ _
  generalize leadingDigits text = digits
  by_cases many : digitLimit < digits.length
  · have filled : ¬ digits.isEmpty = true := by
      rw [List.isEmpty_iff_length_eq_zero]
      omega
    rw [if_neg filled, wholeOfDigits, if_pos many]
    simp [Except.map, many, eq_comm]
  · rw [wholeOfDigits, if_neg many]
    refine iff_of_false ?_ fun both => many both.2
    split <;> intro failed <;> cases failed

/-- What keeps a text from having a color: it is neither a word nor a group of digits with a number
sign, and as a functional color it has an infinite channel, or as a number too many digits. -/
def Unreadable (given : String) (reason : Fault) : Prop :=
  let text := Text.trim given.toList
  let small := Text.lowerChars text
  small ≠ "none".toList ∧ small ≠ "transparent".toList ∧ ofHex? text = none ∧
    namedColors.lookup (String.ofList small) = none ∧
    if "rgb".toList.isPrefixOf small then
      reason = .tooLarge ∧ ∃ inside, argumentsText? (Text.trim small) = some inside ∧
        let arguments := (Text.splitAtEach (· == ',') inside).map Text.trim
        3 ≤ arguments.length ∧ Endless ((arguments.take 3).map channelNumber?)
    else
      reason = .tooManyDigits (leadingDigits text).length ∧
        digitLimit < (leadingDigits text).length

theorem ofLowerFunction_eq_error (text : List Char) (reason : Fault) :
    ofLowerFunction text = .error reason ↔
      reason = .tooLarge ∧ ∃ inside, argumentsText? text = some inside ∧
        let arguments := (Text.splitAtEach (· == ',') inside).map Text.trim
        3 ≤ arguments.length ∧ Endless ((arguments.take 3).map channelNumber?) := by
  rw [ofLowerFunction]
  cases argumentsText? text with
  | none => simp
  | some inside =>
      have fails := ofArguments_eq_fault
        ((Text.splitAtEach (· == ',') inside).map Text.trim) reason
      simp only [Option.some.injEq, exists_eq_left']
      rw [← fails]
      cases ofArguments ((Text.splitAtEach (· == ',') inside).map Text.trim) with
      | ok color => simp
      | error refusal => cases refusal <;> simp

theorem ofText_eq_error (given : String) (reason : Fault) :
    ofText given = .error reason ↔ Unreadable given reason := by
  rw [ofText, Unreadable]
  dsimp only
  by_cases word : Text.lowerChars (Text.trim given.toList) = "none".toList ∨
      Text.lowerChars (Text.trim given.toList) = "transparent".toList
  · rw [if_pos word]
    simp only [reduceCtorEq, false_iff]
    rintro ⟨first, second, _⟩
    exact word.elim first second
  rw [if_neg word]
  rw [not_or] at word
  rw [and_iff_right word.1, and_iff_right word.2]
  cases ofHex? (Text.trim given.toList) with
  | some color => simp
  | none =>
      cases namedColors.lookup (String.ofList (Text.lowerChars (Text.trim given.toList))) with
      | some channels => simp
      | none =>
          rw [and_iff_right rfl, and_iff_right rfl]
          dsimp only
          split
          · exact ofLowerFunction_eq_error _ reason
          · rw [← leadingWhole?_eq_error]
            cases leadingWhole? (Text.trim given.toList) <;> simp [Except.map]

end Vignette.Color
