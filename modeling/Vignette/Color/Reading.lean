import Vignette.Color.Basic
import Vignette.Color.Named
import Vignette.FreeNumeral
import Vignette.Scalar
import Vignette.Text.Lowercase

namespace Vignette

/-! Reading colors: names, groups of base-sixteen digits, functional notation, and whole numbers
that are packed colors. What is none of these is black. -/

/-- Why a functional color has no value: it makes no sense, so that it is black, or its numbers
leave the range of whole numbers, so that there is no color at all. -/
inductive ColorRefusal where
  | senseless
  | fault (reason : Fault)
deriving DecidableEq, Repr

def hexValue? (c : Char) : Option Nat :=
  if '0' ≤ c ∧ c ≤ '9' then some (c.toNat - 48)
  else if 'a' ≤ c ∧ c ≤ 'f' then some (c.toNat - 87)
  else if 'A' ≤ c ∧ c ≤ 'F' then some (c.toNat - 55)
  else none

namespace Color

/-- Combines base-sixteen digits two by two; a last one without a partner stands alone. -/
def pairDigits : List Nat → List Int
  | high :: low :: rest => (16 * high + low : Nat) :: pairDigits rest
  | [single] => [(single : Int)]
  | [] => []

/-- The color of base-sixteen digits. Fewer than five digits are each taken twice. When their number
is a multiple of four, the last group is an opacity. -/
def ofHexDigits (digits : List Nat) : Color :=
  let groups :=
    if digits.length < 5 then digits.map fun d => ((17 * d : Nat) : Int) else pairDigits digits
  match groups with
  | red :: green :: blue :: rest =>
    let transparency :=
      if digits.length % 4 = 0 then (255 - rest.headD 255) / 2 else 0
    ⟨red, green, blue, transparency⟩
  | _ => black

/-- Reads a color given by a number sign and three to eight digits. -/
def ofHex? : List Char → Option Color
  | '#' :: digits =>
    if 3 ≤ digits.length ∧ digits.length ≤ 8 then (digits.mapM hexValue?).map ofHexDigits else none
  | _ => none

def operand (text : List Char) : Except ColorRefusal Float :=
  match freeNumber? text with
  | some x => .ok x
  | none => .error .senseless

/-- A whole number that arithmetic gave. An undefined one makes no sense; one beyond all numbers
is a fault. -/
def wholeOperand (result : Except Fault Int) : Except ColorRefusal Int :=
  match result with
  | .ok n => .ok n
  | .error .undefined => .error .senseless
  | .error reason => .error (.fault reason)

/-- One channel of a functional color: a percentage, rounded, or a number, cut off. -/
def channel (text : List Char) : Except ColorRefusal Int :=
  match text.reverse with
  | '%' :: reversed =>
    (operand reversed.reverse).bind fun x => wholeOperand (Scalar.rounded (x * 2.55))
  | _ => (operand text).bind fun x => wholeOperand (Scalar.wholePart x)

def clampChannel (n : Int) : Int := max 0 (min 255 n)

/-- The transparency of an opacity between zero and one; others count as the nearer bound. -/
def transparencyOf {α : Type} [Scalar α] (opacity : α) : Int :=
  let clamped := Scalar.greatest (Scalar.ofInt 0) (Scalar.least (Scalar.ofInt 1) opacity)
  Scalar.nearest ((Scalar.ofInt 1 - clamped) * Scalar.ofInt fullTransparency)

/-- The color of the arguments of a functional color, of which the fourth is an opacity. -/
def ofArguments (arguments : List (List Char)) : Except ColorRefusal Color :=
  match arguments with
  | first :: second :: third :: rest => do
    let red ← channel first
    let green ← channel second
    let blue ← channel third
    let transparency ←
      match rest with
      | [] => pure 0
      | fourth :: _ => (operand fourth).map transparencyOf
    return ⟨clampChannel red, clampChannel green, clampChannel blue, transparency⟩
  | _ => .error .senseless

def argumentsText? (text : List Char) : Option (List Char) :=
  let behind :=
    if "rgba(".toList.isPrefixOf text then some (text.drop 5)
    else if "rgb(".toList.isPrefixOf text then some (text.drop 4)
    else none
  behind.bind fun inside =>
    (Text.cutAtFirst ')' inside).bind fun (arguments, _) =>
      if arguments.isEmpty then none else some arguments

def ofLowerFunction (text : List Char) : Except Fault Color :=
  match argumentsText? text with
  | none => .ok black
  | some arguments =>
    match ofArguments ((Text.splitAtEach (· == ',') arguments).map Text.trim) with
    | .ok color => .ok color
    | .error .senseless => .ok black
    | .error (.fault reason) => .error reason

def ofFunction (text : String) : Except Fault Color :=
  ofLowerFunction (Text.lowerChars (Text.trim text.toList))

def ofText (given : String) : Except Fault Color :=
  let text := Text.trim given.toList
  let small := Text.lowerChars text
  if small = "none".toList ∨ small = "transparent".toList then .ok transparent
  else
    match ofHex? text with
    | some color => .ok color
    | none =>
      match namedColors.lookup (String.ofList small) with
      | some channels => .ok (ofHandle channels)
      | none =>
        if "rgb".toList.isPrefixOf small then ofLowerFunction (Text.trim small)
        else (leadingWhole? text).map fun found =>
          match found with
          | some handle => ofHandle handle
          | none => black

end Color

/-- A color as it is given: by a text, by a packed number, or as it is. -/
inductive ColorSource where
  | text (s : String)
  | handle (n : Int)
  | color (c : Color)
deriving DecidableEq, Repr

def ColorSource.resolve : ColorSource → Except Fault Color
  | .text s => Color.ofText s
  | .handle n => .ok (Color.ofHandle n)
  | .color c => .ok c

end Vignette
