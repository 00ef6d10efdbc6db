import Vignette.Scalar

namespace Vignette

/-! Points of the plane. -/

/-- A point, by its distance to the right of and below the origin. -/
structure Point (α : Type) where
  x : α
  y : α
deriving Repr

namespace Point

variable {α : Type} [Scalar α]

def origin : Point α := ⟨Scalar.ofInt 0, Scalar.ofInt 0⟩

def shift (p offset : Point α) : Point α := ⟨p.x + offset.x, p.y + offset.y⟩

/-- The reflection of a control point in the point that a curve passes through. -/
def reflect (control through : Point α) : Point α :=
  ⟨Scalar.ofInt 2 * through.x - control.x, Scalar.ofInt 2 * through.y - control.y⟩

def equals (p q : Point α) : Bool := Scalar.eq p.x q.x && Scalar.eq p.y q.y

/-- Whether two scalars are equal or both undefined. -/
def agrees (u v : α) : Bool := Scalar.eq u v || (!Scalar.eq u u && !Scalar.eq v v)

def coincides (p q : Point α) : Bool := agrees p.x q.x && agrees p.y q.y

def isFinite (p : Point α) : Bool := Scalar.isFinite p.x && Scalar.isFinite p.y

end Point

end Vignette
