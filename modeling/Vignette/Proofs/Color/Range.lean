import Vignette.Proofs.Binary64.Numbers
import Vignette.Proofs.Drawing.Faults

namespace Vignette

/-! Every color that is read is in range, and so is all paint in a document. -/

namespace Color

open Binary64
open Scalar

theorem inRange_black : black.InRange := by
  simp [InRange, black]

theorem inRange_transparent : transparent.InRange := by
  simp [InRange, transparent, fullTransparency]

/-! ### Base-sixteen digits -/

theorem hexValue_lt {c : Char} {digit : Nat} (found : hexValue? c = some digit) : digit < 16 := by
  have code {low : Char} (given : low ≤ c) : low.toNat ≤ c.toNat := given
  have code' {high : Char} (given : c ≤ high) : c.toNat ≤ high.toNat := given
  rw [hexValue?] at found
  split at found
  case isTrue decimal =>
    obtain rfl := Option.some.inj found
    have := code' decimal.2
    have nine : '9'.toNat = 57 := rfl
    omega
  case isFalse =>
    split at found
    case isTrue small =>
      obtain rfl := Option.some.inj found
      have := code' small.2
      have f : 'f'.toNat = 102 := rfl
      omega
    case isFalse =>
      split at found
      case isTrue large =>
        obtain rfl := Option.some.inj found
        have := code' large.2
        have f : 'F'.toNat = 70 := rfl
        omega
      case isFalse => cases found

theorem pairDigits_bounds {digits : List Nat} (small : ∀ digit ∈ digits, digit < 16) :
    ∀ group ∈ pairDigits digits, 0 ≤ group ∧ group ≤ 255 := by
  fun_induction pairDigits digits with
  | case1 high low rest ih =>
      intro group member
      rcases List.mem_cons.mp member with rfl | later
      · have first := small high (by simp)
        have second := small low (by simp)
        omega
      · exact ih (fun digit inRest => small digit (by simp [inRest])) group later
  | case2 single =>
      intro group member
      have alone := small single (by simp)
      rw [List.mem_singleton.mp member]
      omega
  | case3 => simp

theorem digits_lt {text : List Char} {digits : List Nat}
    (read : text.mapM hexValue? = some digits) : ∀ digit ∈ digits, digit < 16 := by
  induction text generalizing digits with
  | nil =>
      obtain rfl := Option.some.inj read
      simp
  | cons c rest ih =>
      rw [List.mapM_cons] at read
      obtain ⟨first, value, onward⟩ := Option.bind_eq_some_iff.mp read
      obtain ⟨later, readLater, same⟩ := Option.bind_eq_some_iff.mp onward
      obtain rfl := Option.some.inj same
      exact List.forall_mem_cons.mpr ⟨hexValue_lt value, ih readLater⟩

theorem inRange_ofHexDigits {digits : List Nat} (small : ∀ digit ∈ digits, digit < 16) :
    (ofHexDigits digits).InRange := by
  have doubled : ∀ group ∈ digits.map fun d => ((17 * d : Nat) : Int),
      0 ≤ group ∧ group ≤ 255 := by
    intro group member
    obtain ⟨digit, given, rfl⟩ := List.mem_map.mp member
    have := small digit given
    omega
  have groups : ∀ group ∈ (if digits.length < 5 then digits.map fun d => ((17 * d : Nat) : Int)
      else pairDigits digits), 0 ≤ group ∧ group ≤ 255 := by
    split
    · exact doubled
    · exact pairDigits_bounds small
  unfold ofHexDigits
  dsimp only
  generalize (if digits.length < 5 then digits.map fun d => ((17 * d : Nat) : Int)
    else pairDigits digits) = bytes at groups ⊢
  split
  case h_1 red green blue rest =>
    refine ⟨groups red (by simp), groups green (by simp), groups blue (by simp), ?_⟩
    dsimp only
    have last : 0 ≤ rest.headD 255 ∧ rest.headD 255 ≤ 255 := by
      cases rest with
      | nil => decide
      | cons opacity _ => exact groups opacity (by simp)
    split <;> omega
  case h_2 => exact inRange_black

theorem inRange_ofHex {text : List Char} {color : Color} (found : ofHex? text = some color) :
    color.InRange := by
  unfold ofHex? at found
  split at found
  case h_1 digits =>
    split at found
    · obtain ⟨values, read, rfl⟩ := Option.map_eq_some_iff.mp found
      exact inRange_ofHexDigits (digits_lt read)
    · cases found
  case h_2 => cases found

/-! ### Functional notation -/

/-- What is not within the bounds counts as one of them, also if it is undefined. -/
theorem isPart_bounded (opacity : Float) :
    IsPart (greatest (ofInt 0) (least (ofInt 1) opacity)) := by
  have zero : IsPart (0 : Float) := isPart_of_represents represents_zero le_rfl zero_le_one
  have one : IsPart (1 : Float) := isPart_of_represents represents_one zero_le_one le_rfl
  rw [greatest, least, ofInt_zero, ofInt_one]
  by_cases below : opacity < 1
  · have chosen : Scalar.lt opacity 1 = true := decide_eq_true below
    rw [if_pos chosen]
    by_cases above : 0 < opacity
    · have kept : Scalar.lt 0 opacity = true := decide_eq_true above
      rw [if_pos kept]
      exact ⟨float_le_of_lt above, float_le_of_lt below⟩
    · have cut : ¬ Scalar.lt 0 opacity = true := fun less => above (of_decide_eq_true less)
      rw [if_neg cut]
      exact zero
  · have cut : ¬ Scalar.lt opacity 1 = true := fun less => below (of_decide_eq_true less)
    rw [if_neg cut]
    split
    · exact one
    · exact zero

theorem represents_fullTransparency : Represents (ofInt fullTransparency) 127 := by
  have unpacked : (ofInt fullTransparency : Float).toModel.unpack =
      .finite .positive (127 * 2 ^ 46) (-46) (by decide) := by rfl
  have given := represents_positive unpacked (by decide)
  norm_num at given
  exact given

theorem transparencyOf_bounds (opacity : Float) :
    0 ≤ transparencyOf opacity ∧ transparencyOf opacity ≤ 127 := by
  obtain ⟨v, part, least, greatest⟩ := (isPart_bounded opacity).represents
  obtain ⟨r, rest, near⟩ := represents_one.sub_small part (by linarith) (by linarith)
  obtain ⟨rest_least, rest_greatest⟩ := abs_le.mp near
  obtain ⟨s, scaled, near⟩ := rest.mul_small represents_fullTransparency (by linarith) (by linarith)
  obtain ⟨scaled_least, scaled_greatest⟩ := abs_le.mp near
  obtain ⟨half_least, half_greatest⟩ := abs_le.mp scaled.nearest
  rw [ofInt_one] at half_least half_greatest
  rw [transparencyOf, ofInt_one]
  generalize nearest ((1 - Scalar.greatest (ofInt 0) (Scalar.least 1 opacity)) *
    ofInt fullTransparency : Float) = n at half_least half_greatest ⊢
  have above : (-1 : ℚ) < n := by linarith
  have below : (n : ℚ) < 128 := by linarith
  have above' : -1 < n := by exact_mod_cast above
  have below' : n < 128 := by exact_mod_cast below
  omega

theorem inRange_ofArguments {arguments : List (List Char)} {color : Color}
    (found : ofArguments arguments = .ok color) : color.InRange := by
  have clamped (n : Int) : 0 ≤ clampChannel n ∧ clampChannel n ≤ 255 := by
    rw [clampChannel]
    omega
  unfold ofArguments at found
  split at found
  case h_1 first second third rest =>
    obtain ⟨red, _, found⟩ := Drawing.bind_eq_ok found
    obtain ⟨green, _, found⟩ := Drawing.bind_eq_ok found
    obtain ⟨blue, _, found⟩ := Drawing.bind_eq_ok found
    cases rest with
    | nil =>
        obtain rfl := Except.ok.inj found
        exact ⟨clamped red, clamped green, clamped blue, le_rfl, by norm_num⟩
    | cons fourth _ =>
        obtain ⟨transparency, given, found⟩ := Drawing.bind_eq_ok found
        obtain rfl := Except.ok.inj found
        refine ⟨clamped red, clamped green, clamped blue, ?_⟩
        cases read : operand fourth with
        | error refusal => rw [read] at given; cases given
        | ok opacity =>
            rw [read] at given
            obtain rfl := Except.ok.inj given
            exact transparencyOf_bounds opacity
  case h_2 => cases found

theorem inRange_ofLowerFunction {text : List Char} {color : Color}
    (found : ofLowerFunction text = .ok color) : color.InRange := by
  unfold ofLowerFunction at found
  split at found
  case h_1 =>
    obtain rfl := Except.ok.inj found
    exact inRange_black
  case h_2 arguments _ =>
    split at found
    case h_1 read =>
      obtain rfl := Except.ok.inj found
      exact inRange_ofArguments read
    case h_2 =>
      obtain rfl := Except.ok.inj found
      exact inRange_black
    case h_3 => cases found

theorem inRange_ofText {text : String} {color : Color} (found : ofText text = .ok color) :
    color.InRange := by
  rw [ofText] at found
  split at found
  case isTrue =>
    obtain rfl := Except.ok.inj found
    exact inRange_transparent
  case isFalse =>
    split at found
    case h_1 read =>
      obtain rfl := Except.ok.inj found
      exact inRange_ofHex read
    case h_2 =>
      split at found
      case h_1 =>
        obtain rfl := Except.ok.inj found
        exact inRange_ofHandle _
      case h_2 =>
        split at found
        case isTrue => exact inRange_ofLowerFunction found
        case isFalse =>
          cases read : leadingWhole? (Text.trim text.toList) with
          | error reason => rw [read] at found; cases found
          | ok number =>
              rw [read] at found
              obtain rfl := Except.ok.inj found
              cases number with
              | none => exact inRange_black
              | some handle => exact inRange_ofHandle handle

end Color

namespace Style

def Paint.InRange (paint : Paint) : Prop := ∀ part : Part, (part.color paint).InRange

theorem Paint.inRange_default : Paint.default.InRange := by
  rintro (_ | _)
  · exact Color.inRange_black
  · exact Color.inRange_transparent

theorem resolve_inRange {attributes : Bindings String} {scope : Scope} {rules : Rules}
    {inherited paint : Paint} (before : inherited.InRange)
    (resolved : resolve attributes scope rules inherited = .ok paint) : paint.InRange := by
  intro part
  have color := resolve_color resolved part
  generalize setting? part.property attributes (appliedDeclarations scope rules) = set at color
  cases set with
  | none =>
      have same : part.color inherited = part.color paint := Except.ok.inj color
      rw [← same]
      exact before part
  | some text =>
      rw [Option.map_some, Option.getD_some, resolveColor_text] at color
      exact Color.inRange_ofText color

end Style

namespace Drawing

open Style (Rules)

theorem Context.along_inRange {rules : Rules} {path : List Markup.Element} {outer inside : Context}
    (before : outer.paint.InRange) (reached : outer.along rules path = .ok inside) :
    inside.paint.InRange := by
  induction path generalizing outer with
  | nil =>
      obtain rfl := Except.ok.inj reached
      exact before
  | cons element rest ih =>
      rw [Context.along, List.foldlM_cons] at reached
      obtain ⟨next, entered, onward⟩ := bind_eq_ok reached
      refine ih ?_ onward
      rw [Context.enter] at entered
      obtain ⟨paint, resolved, same⟩ := bind_eq_ok entered
      obtain rfl := Except.ok.inj same
      exact Style.resolve_inRange before resolved

end Drawing

/-- Nothing but colors in range is inherited from the root of a document. -/
theorem Document.outermost_inRange {document : Document} {outermost : Drawing.Context}
    (root : document.outermost = .ok outermost) : outermost.paint.InRange := by
  rw [Document.outermost] at root
  cases resolved : Style.resolve (Attributes.normalizedTexts document.root.attributes)
      document.scope document.rules .default with
  | error reason => rw [resolved] at root; cases root
  | ok paint =>
      rw [resolved] at root
      obtain rfl := Except.ok.inj root
      exact Style.resolve_inRange Style.Paint.inRange_default resolved

end Vignette
