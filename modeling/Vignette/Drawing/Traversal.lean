import Vignette.Document
import Vignette.Drawing.Call
import Vignette.Path.Flattening

namespace Vignette.Drawing

/-! Drawing a document: every element is drawn after all elements in it, with the attributes in
force at its place and the paint that results from them. -/

open Style (Paint Rules)

/-- What drawing gives: the calls to the canvas, the warnings about paths, and the number of
elements. -/
structure Rendering where
  calls : List (Call Float)
  warnings : List Path.Warning
  count : Nat

namespace Rendering

def empty : Rendering := ⟨[], [], 0⟩

def append (first second : Rendering) : Rendering :=
  ⟨first.calls ++ second.calls, first.warnings ++ second.warnings, first.count + second.count⟩

instance : Append Rendering := ⟨append⟩

/-- Calls that belong to no element of their own. -/
def ofCalls (calls : List (Call Float)) : Rendering := ⟨calls, [], 0⟩

end Rendering

/-- The height of a line of text, whose position is given by its base. -/
def textHeight : Float := 16

def pointAt (scope : Scope) (x y : String) : Point Float := ⟨scope.pixels x, scope.pixels y⟩

def flattened (paint : Paint) (path : Path.Flattening Float) : Rendering :=
  ⟨path.sequences.flatMap fun vertices => openShape vertices paint, path.warning.toList, 0⟩

def textCalls (text : String) (scope : Scope) (paint : Paint) : List (Call Float) :=
  let shown := Text.trimmed text
  if shown.isEmpty then []
  else [.text ⟨scope.pixels "x", scope.pixels "y" - textHeight⟩ shown paint.fill]

/-- What the shape of an element draws. Elements of other names draw nothing. -/
def shape (mode : Path.Mode) (name text : String) (scope : Scope) (paint : Paint) :
    Except Fault Rendering :=
  match name with
  | "line" => .ok (.ofCalls (line (pointAt scope "x1" "y1") (pointAt scope "x2" "y2") paint))
  | "circle" =>
    .ok (.ofCalls (ellipse (pointAt scope "cx" "cy") (scope.pixels "r") (scope.pixels "r") paint))
  | "ellipse" =>
    .ok (.ofCalls (ellipse (pointAt scope "cx" "cy") (scope.pixels "rx") (scope.pixels "ry") paint))
  | "rect" =>
    .ok (.ofCalls
      (rectangle (pointAt scope "x" "y") (scope.pixels "width") (scope.pixels "height") paint))
  | "polygon" => .ok (.ofCalls (closedShape (Path.points (scope.getD "points" "")) paint))
  | "polyline" => .ok (.ofCalls (openShape (Path.points (scope.getD "points" "")) paint))
  | "path" => (Path.flatten mode (scope.getD "d" "")).map (flattened paint)
  | "text" => .ok (.ofCalls (textCalls text scope paint))
  | _ => .ok .empty

/-- What an element draws after the elements in it. -/
def ownRendering (mode : Path.Mode) (name text : String) (scope : Scope) (paint : Paint) :
    Except Fault Rendering :=
  (shape mode name text scope paint).map fun own =>
    ⟨.setStrokeWidth paint.strokeWidth :: own.calls, own.warnings, 1⟩

mutual

/-- Draws an element inside another one, whose scope and paint are given. -/
def draw (mode : Path.Mode) (rules : Rules) (outer : Scope) (around : Paint) :
    Markup.Node → Except Fault Rendering
  | .mk element text children => do
    let attributes := Attributes.normalizedTexts element.attributes
    let scope := Scope.overlay outer attributes
    let paint ← Style.resolve attributes scope rules around
    let inner ← drawAll mode rules scope paint children
    let own ← ownRendering mode element.name text scope paint
    return inner ++ own

def drawAll (mode : Path.Mode) (rules : Rules) (outer : Scope) (around : Paint) :
    List Markup.Node → Except Fault Rendering
  | [] => .ok .empty
  | node :: rest => do
    let first ← draw mode rules outer around node
    let second ← drawAll mode rules outer around rest
    return first ++ second

end

end Vignette.Drawing

namespace Vignette.Document

open Drawing

/-- The style rules of a document: those of all its style elements, in order. -/
def rules (document : Document) : Style.Rules :=
  .ofSheets ((document.root.preorder.filter fun node => node.name = "style").map Markup.Node.text)

/-- Draws a document. The root itself is not drawn; its attributes are in force and its paint is
inherited. -/
def rendering (document : Document) (mode : Path.Mode) : Except Fault Rendering := do
  let rules := document.rules
  let attributes := Attributes.normalizedTexts document.root.attributes
  let paint ← Style.resolve attributes document.scope rules .default
  drawAll mode rules document.scope paint document.root.children

def summary (document : Document) (drawn : Rendering) : String :=
  "Rendered " ++ toString drawn.count ++ " node(s) onto a " ++ toString document.width ++ "x" ++
    toString document.height ++ " canvas"

end Vignette.Document
