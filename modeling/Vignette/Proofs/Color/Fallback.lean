import Vignette.Proofs.Color.Faults

namespace Vignette

/-! Which texts are read as black because they make no sense as a color: those that are none of the
known forms, and functional colors in which a number is missing, malformed or undefined before any
infinite one. All other texts have a color of their own or, as `Unreadable` says, none at all. -/

namespace Color

open Scalar

/-- Whether the first of some numbers that is not finite is missing or undefined. -/
def Senseless (numbers : List (Option Float)) : Prop :=
  ∃ number, numbers.find? (fun number => !number.any isFinite) = some number ∧
    number.any isInfinite = false

def AllFinite (numbers : List (Option Float)) : Prop :=
  ∀ number ∈ numbers, number.any isFinite = true

theorem senseless_cons_none (numbers : List (Option Float)) : Senseless (none :: numbers) :=
  ⟨none, List.find?_cons_of_pos rfl, rfl⟩

theorem senseless_cons_of_finite {x : Float} (finite : isFinite x = true)
    (numbers : List (Option Float)) : Senseless (some x :: numbers) ↔ Senseless numbers := by
  rw [Senseless, List.find?_cons_of_neg (by simp [finite]), Senseless]

theorem senseless_cons_of_endless {x : Float} (endless : isFinite x = false)
    (numbers : List (Option Float)) :
    Senseless (some x :: numbers) ↔ isInfinite x = false := by
  rw [Senseless, List.find?_cons_of_pos (by simp [endless])]
  simp

theorem allFinite_cons (x : Float) (numbers : List (Option Float)) :
    AllFinite (some x :: numbers) ↔ isFinite x = true ∧ AllFinite numbers := by
  rw [AllFinite, List.forall_mem_cons]
  rfl

theorem endless_cons_of_infinite {number : Option Float} (infinite : number.any isInfinite = true)
    (numbers : List (Option Float)) : Endless (number :: numbers) := by
  cases number with
  | none => contradiction
  | some x =>
      have endless : isFinite x = false := by
        rw [Option.any_some, isInfinite, Bool.and_eq_true, Bool.not_eq_true'] at infinite
        exact infinite.1
      exact (endless_cons_of_endless endless numbers).mpr infinite

/-- Numbers are senseless, or they are all finite and what follows them is senseless. -/
def SenselessThen (numbers : List (Option Float)) (later : Prop) : Prop :=
  Senseless numbers ∨ (AllFinite numbers ∧ later)

theorem senselessThen_nil (later : Prop) : SenselessThen [] later ↔ later := by
  refine ⟨?_, fun holds => .inr ⟨by simp [AllFinite], holds⟩⟩
  rintro (⟨_, found, _⟩ | ⟨_, holds⟩)
  · cases found
  · exact holds

variable {β : Type}

theorem channel_bind_eq_senseless {numbers : List (Option Float)} {later : Prop}
    (text : List Char) {next : Int → Except ColorRefusal β}
    (onward : ∀ n, next n = .error .senseless ↔ SenselessThen numbers later) :
    (channel text).bind next = .error .senseless ↔
      SenselessThen (channelNumber? text :: numbers) later := by
  rcases channel_spec text with ⟨missing, refused⟩ | ⟨x, read, outcome⟩
  · rw [refused, missing]
    exact iff_of_true rfl (.inl (senseless_cons_none numbers))
  · rw [read, SenselessThen, allFinite_cons]
    generalize channel text = result at outcome ⊢
    cases outcome with
    | finite n finite =>
        rw [senseless_cons_of_finite finite, and_iff_right finite]
        exact onward n
    | infinite endless infinite =>
        rw [senseless_cons_of_endless endless]
        simp [Except.bind, endless, infinite]
    | undefined endless undefined =>
        rw [senseless_cons_of_endless endless]
        simp [Except.bind, undefined]

theorem ofArguments_eq_senseless (arguments : List (List Char)) :
    ofArguments arguments = .error .senseless ↔ arguments.length < 3 ∨
      SenselessThen ((arguments.take 3).map channelNumber?)
        (∃ opacity, arguments[3]? = some opacity ∧ freeNumber? opacity = none) := by
  unfold ofArguments
  split
  · rename_i first second third rest
    have three : ¬ (first :: second :: third :: rest).length < 3 := by simp
    rw [or_iff_right three]
    refine channel_bind_eq_senseless first fun red => channel_bind_eq_senseless second fun green =>
      channel_bind_eq_senseless third fun blue => ?_
    rw [List.take_zero, List.map_nil, senselessThen_nil]
    cases rest with
    | nil =>
        refine iff_of_false (fun failed => by cases failed) ?_
        rintro ⟨opacity, fourth, _⟩
        cases fourth
    | cons fourth _ =>
        simp only [operand, List.getElem?_cons_succ, List.getElem?_cons_zero, Option.some.injEq,
          exists_eq_left']
        cases freeNumber? fourth with
        | none => exact iff_of_true rfl rfl
        | some opacity =>
            exact iff_of_false (fun failed => by cases failed) (fun missing => by cases missing)
  · rename_i fewer
    refine iff_of_true rfl (.inl ?_)
    rcases arguments with _ | ⟨first, _ | ⟨second, _ | ⟨third, rest⟩⟩⟩
    case cons.cons.cons => exact absurd rfl (fewer first second third rest)
    all_goals simp

/-- What makes a text black without naming it: it is neither a word nor a group of digits with a
number sign; as a functional color it is not closed or its arguments are too few or senseless, and as
a number it has no digits. -/
def Misread (given : String) : Prop :=
  let text := Text.trim given.toList
  let small := Text.lowerChars text
  small ≠ "none".toList ∧ small ≠ "transparent".toList ∧ ofHex? text = none ∧
    namedColors.lookup (String.ofList small) = none ∧
    if "rgb".toList.isPrefixOf small then
      ∀ inside, argumentsText? (Text.trim small) = some inside →
        let arguments := (Text.splitAtEach (· == ',') inside).map Text.trim
        arguments.length < 3 ∨ SenselessThen ((arguments.take 3).map channelNumber?)
          (∃ opacity, arguments[3]? = some opacity ∧ freeNumber? opacity = none)
    else
      leadingDigits text = []

theorem ofLowerFunction_of_senseless {text : List Char}
    (senseless : ∀ inside, argumentsText? text = some inside →
      ofArguments ((Text.splitAtEach (· == ',') inside).map Text.trim) = .error .senseless) :
    ofLowerFunction text = .ok black := by
  rw [ofLowerFunction]
  cases found : argumentsText? text with
  | none => rfl
  | some inside =>
      dsimp only
      rw [senseless inside found]

theorem leadingWhole?_of_no_digits {text : List Char} (digitless : leadingDigits text = []) :
    leadingWhole? text = .ok none := by
  rw [leadingDigits] at digitless
  rw [leadingWhole?]
  dsimp only
  rw [digitless]
  rfl

theorem ofText_of_misread {given : String} (misread : Misread given) : ofText given = .ok black := by
  obtain ⟨first, second, unhex, unnamed, reading⟩ := misread
  rw [ofText, if_neg (not_or.mpr ⟨first, second⟩), unhex]
  dsimp only
  rw [unnamed]
  dsimp only
  split at reading
  · rename_i functional
    rw [if_pos functional]
    exact ofLowerFunction_of_senseless fun inside found =>
      (ofArguments_eq_senseless _).mpr (reading inside found)
  · rename_i plain
    rw [if_neg plain, leadingWhole?_of_no_digits reading]
    rfl

end Color

/-- Every source has a color except a text with an infinite channel or too many digits, and a text
that makes no sense is black. -/
theorem ColorSource.resolve_readable (source : ColorSource) :
    ((∃ color, source.resolve = .ok color) ↔
      ∀ given, source = .text given → ∀ reason, ¬ Color.Unreadable given reason) ∧
    (∀ reason, source.resolve = .error reason ↔
      ∃ given, source = .text given ∧ Color.Unreadable given reason) ∧
    ∀ given, source = .text given → Color.Misread given → source.resolve = .ok .black := by
  have fails (reason : Fault) : source.resolve = .error reason ↔
      ∃ given, source = .text given ∧ Color.Unreadable given reason := by
    cases source with
    | text given => simp [resolve, Color.ofText_eq_error]
    | handle number => simp [resolve]
    | color color => simp [resolve]
  refine ⟨?_, fails, ?_⟩
  · constructor
    · rintro ⟨color, read⟩ given same reason unreadable
      have failed := (fails reason).mpr ⟨given, same, unreadable⟩
      rw [read] at failed
      cases failed
    · intro readable
      cases outcome : source.resolve with
      | ok color => exact ⟨color, rfl⟩
      | error reason =>
          obtain ⟨given, same, unreadable⟩ := (fails reason).mp outcome
          exact absurd unreadable (readable given same reason)
  · rintro given rfl misread
    exact Color.ofText_of_misread misread

/-- A channel that is no number makes a color black even in front of an infinite one. -/
theorem ColorSource.resolve_readable_malformed :
    Color.Misread "rgb(1,x,inf)" ∧ (ColorSource.text "rgb(1,x,inf)").resolve = .ok .black := by
  have misread : Color.Misread "rgb(1,x,inf)" := by
    refine ⟨by decide, by decide, by decide, by decide +kernel, ?_⟩
    rw [if_pos (by decide)]
    intro inside found
    obtain rfl : "1,x,inf".toList = inside := Option.some.inj (found ▸ by rfl)
    exact .inr (.inl ⟨none, by rfl, rfl⟩)
  exact ⟨misread, (ColorSource.resolve_readable _).2.2 _ rfl misread⟩

/-- An infinite channel leaves a text without a color. -/
theorem ColorSource.resolve_infinite :
    (ColorSource.text "rgb(inf,0,0)").resolve = .error .tooLarge := by
  rw [resolve, Color.ofText_eq_error]
  refine ⟨by decide, by decide, by decide, by decide +kernel, ?_⟩
  rw [if_pos (by decide)]
  refine ⟨rfl, "inf,0,0".toList, by rfl, by decide, ?_⟩
  exact Color.endless_cons_of_infinite (by decide +kernel) _

end Vignette
