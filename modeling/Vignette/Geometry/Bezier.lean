import Vignette.Geometry.Point

namespace Vignette.Bezier

/-! Quadratic and cubic curves, flattened to points at fifty-one equidistant parameters from zero to
one. -/

variable {α : Type} [Scalar α]

open Scalar

@[specialize] def square (x : α) : α := x * x

@[specialize] def quadratic (a0 a1 a2 t : α) : α :=
  let s := ofInt 1 - t
  square s * a0 + ofInt 2 * s * t * a1 + square t * a2

@[specialize] def cubic (a0 a1 a2 a3 t : α) : α :=
  let s := ofInt 1 - t
  cube s * a0 + ofInt 3 * square s * t * a1 + ofInt 3 * s * square t * a2 + cube t * a3

/-- Whether a power of a finite scalar is no longer finite. -/
def outgrows (base power : α) : Bool := isFinite base && !isFinite power

/-- One coordinate of a quadratic curve at an arbitrary parameter, unless a square outgrows the
numbers. -/
def quadraticAt (a0 a1 a2 t : α) : Except Fault α :=
  if outgrows (ofInt 1 - t) (square (ofInt 1 - t)) || outgrows t (square t) then .error .tooLarge
  else .ok (quadratic a0 a1 a2 t)

def cubicAt (a0 a1 a2 a3 t : α) : Except Fault α :=
  if outgrows (ofInt 1 - t) (cube (ofInt 1 - t)) || outgrows t (cube t) then .error .tooLarge
  else .ok (cubic a0 a1 a2 a3 t)

def steps : Nat := 50

/-- The parameter after some steps. The last one is exactly one. -/
def parameter (step : Nat) : α :=
  if step = steps then ofInt 1 else ofInt step * ratio 1 steps

def parameters : List α := (List.range (steps + 1)).map parameter

def flattenQuadratic (p0 p1 p2 : Point α) : List (Point α) :=
  parameters.map fun t => ⟨quadratic p0.x p1.x p2.x t, quadratic p0.y p1.y p2.y t⟩

def flattenCubic (p0 p1 p2 p3 : Point α) : List (Point α) :=
  parameters.map fun t => ⟨cubic p0.x p1.x p2.x p3.x t, cubic p0.y p1.y p2.y p3.y t⟩

@[simp] theorem length_parameters : (parameters : List α).length = 51 := by
  simp [parameters, steps]

@[simp] theorem length_flattenQuadratic (p0 p1 p2 : Point α) :
    (flattenQuadratic p0 p1 p2).length = 51 := by simp [flattenQuadratic]

@[simp] theorem length_flattenCubic (p0 p1 p2 p3 : Point α) :
    (flattenCubic p0 p1 p2 p3).length = 51 := by simp [flattenCubic]

end Vignette.Bezier
