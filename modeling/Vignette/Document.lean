import Vignette.Markup.Node
import Vignette.Path.Token
import Vignette.Scalar
import Vignette.Scope
import Vignette.Text.Quoted

namespace Vignette

/-! Documents: an element tree whose root says which part of the plane is shown. The size of the
picture is the size of that part in whole pixels, and at least one pixel each way. -/

structure ViewBox where
  minX : Float
  minY : Float
  width : Float
  height : Float

inductive ViewBoxFault where
  | missing
  | invalid (text : String)
  | withoutArea (text : String)
deriving DecidableEq, Repr

def ViewBoxFault.message : ViewBoxFault → String
  | .missing => "SVG viewBox attribute not defined"
  | .invalid text => "Invalid viewBox: " ++ Text.quoted text
  | .withoutArea text => "viewBox has no area: " ++ Text.quoted text

/-- The parts between runs of blanks and commas. Where such a run stands at an end, the part
beyond it is empty. -/
def separatedParts (cs : List Char) : List (List Char) :=
  let parts := Text.splitAtEach Path.isSeparator cs
  let inner := ((parts.drop 1).dropLast).filter fun part => !part.isEmpty
  match parts with
  | [] | [_] => parts
  | first :: _ => first :: inner ++ [parts.getLast?.getD []]

namespace ViewBox

/-- Reads four numbers between blanks and commas. -/
def ofText (text : String) : Except ViewBoxFault ViewBox :=
  match (separatedParts (Text.trim text.toList)).mapM fun part => number? (String.ofList part) with
  | some [minX, minY, width, height] =>
    if width ≤ 0 ∨ height ≤ 0 then .error (.withoutArea text) else .ok ⟨minX, minY, width, height⟩
  | _ => .error (.invalid text)

def ofAttribute : Option String → Except ViewBoxFault ViewBox
  | none => .error .missing
  | some text => ofText text

/-- How a part of the plane is shown: four numbers in their shortest text. -/
def shown (box : ViewBox) : String :=
  let numbers := [box.minX, box.minY, box.width, box.height].map shortestText
  "(" ++ ", ".intercalate numbers ++ ")"

end ViewBox

/-- A length in whole pixels, at least one. -/
def wholePixels (length : Float) : Nat := max 1 (Scalar.truncate length).toNat

structure Document where
  root : Markup.Node
  scope : Scope
  viewBox : ViewBox

inductive DocumentFault where
  | markup (reason : Markup.Unreadable)
  | viewBox (reason : ViewBoxFault)
deriving DecidableEq, Repr

def DocumentFault.message : DocumentFault → String
  | .markup reason => reason.message
  | .viewBox reason => reason.message

namespace Document

def ofTree (root : Markup.Node) : Except ViewBoxFault Document :=
  let scope := Scope.overlay .empty root.attributes
  (ViewBox.ofAttribute (scope.get? "viewbox")).map fun viewBox => ⟨root, scope, viewBox⟩

def read (text : String) : Except DocumentFault Document :=
  match Markup.parse text with
  | .error reason => .error (.markup reason)
  | .ok root => (ofTree root).mapError .viewBox

def width (document : Document) : Nat := wholePixels document.viewBox.width

def height (document : Document) : Nat := wholePixels document.viewBox.height

end Document

end Vignette
