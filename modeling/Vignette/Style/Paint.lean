import Vignette.Color.Reading
import Vignette.Scope
import Vignette.Style.Sheet

namespace Vignette.Style

/-! Paint: what an element is filled and stroked with. Of all that may set it, the weakest is the
paint of the element around it; then come its own attributes, the rules of its classes, the rule
of its identifier, and its style attribute. -/

structure Paint where
  fill : Color
  stroke : Color
  strokeWidth : Nat
deriving DecidableEq, Repr

def Paint.default : Paint := ⟨.black, .transparent, 0⟩

/-- A stroke width as it is given: a length or a whole number. -/
inductive WidthSource where
  | text (s : String)
  | whole (n : Int)
deriving DecidableEq, Repr

/-- The stroke width that is given: whole, and never negative. -/
def WidthSource.resolve : WidthSource → Nat
  | .text s => (Scalar.truncate ((Length.ofString s).pixelsOr 0)).toNat
  | .whole n => n.toNat

structure PaintSource where
  fill : ColorSource
  stroke : ColorSource
  strokeWidth : WidthSource

def Paint.source (paint : Paint) : PaintSource :=
  ⟨.color paint.fill, .color paint.stroke, .whole paint.strokeWidth⟩

/-- The color that is given, where a text may ask for the color in force. -/
def resolveColor (source : ColorSource) (scope : Scope) : Except Fault Color :=
  match source with
  | .text s =>
    if Text.lower (Text.trimmed s) = "currentcolor" then Color.ofText (scope.getD "color" "black")
    else Color.ofText s
  | other => other.resolve

/-- The declarations that apply to an element: those of matching rules, and then those of its style
attribute. -/
def appliedDeclarations (scope : Scope) (rules : Rules) : Declarations :=
  (rules.matching scope).overlay (declarations (scope.getD "style" ""))

/-- The text that sets a property of an element: a declaration, or else its own attribute. -/
def setting? (name : String) (attributes : Bindings String) (applied : Declarations) :
    Option String :=
  (applied.get? name).or (attributes.get? name)

/-- The width of a stroke. A stroke that is visible and has no width set is one pixel wide. -/
def settledWidth (set : Option String) (inherited : WidthSource) (stroke : Color) : Nat :=
  match set with
  | some text => (WidthSource.text text).resolve
  | none =>
    if inherited.resolve = 0 ∧ stroke ≠ .transparent then 1 else inherited.resolve

/-- The paint of an element with its own attributes, inside an element whose paint is given. -/
def resolveFrom (attributes : Bindings String) (scope : Scope) (rules : Rules)
    (inherited : PaintSource) : Except Fault Paint := do
  let applied := appliedDeclarations scope rules
  let set (name : String) := setting? name attributes applied
  let fill ← resolveColor (((set "fill").map .text).getD inherited.fill) scope
  let stroke ← resolveColor (((set "stroke").map .text).getD inherited.stroke) scope
  return ⟨fill, stroke, settledWidth (set "stroke-width") inherited.strokeWidth stroke⟩

def resolve (attributes : Bindings String) (scope : Scope) (rules : Rules) (inherited : Paint) :
    Except Fault Paint :=
  resolveFrom attributes scope rules inherited.source

end Vignette.Style
