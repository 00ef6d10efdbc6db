import Vignette.Attributes
import Vignette.Length
import Vignette.Text.Quoted

namespace Vignette

/-! Scopes: the attributes in force at one place of the element tree, its own and inherited ones. -/

/-- The attributes in force, by names in lower case. -/
abbrev Scope := Bindings String

namespace Scope

/-- The scope of an element inside another: its own attributes go before those in force outside,
which blank ones do not hide. -/
def overlay (outer : Scope) (attributes : Bindings String) : Scope :=
  Bindings.overlay outer (Attributes.normalizedTexts attributes)

/-- The length in pixels that an attribute gives; another number if the attribute is missing or its
length is beyond all numbers. -/
def length (scope : Scope) (name : String) (other : Float) : Float :=
  match scope.get? name with
  | some text => (Length.ofString text).pixelsOr other
  | none => other

def pixels (scope : Scope) (name : String) : Float := scope.length name 0

/-- How a scope is shown: its attributes in order, names and values in quotes. -/
def shown (scope : Scope) : String :=
  let entries := scope.entries.map fun entry =>
    Text.quoted entry.1 ++ ": " ++ Text.quoted entry.2
  "AttributeScope(\x7b" ++ ", ".intercalate entries ++ "\x7d)"

end Scope

end Vignette
