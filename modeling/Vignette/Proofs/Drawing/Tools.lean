import Vignette.Proofs.Drawing.Shapes

namespace Vignette

/-! The tools of a canvas while calls are made. What a call paints depends on the picture so far and
on the tools: how wide strokes are, and whether blending is on. Setting the width of strokes paints
nothing itself. So the picture follows from the other calls, each with the tools it is made with. -/

namespace Drawing

variable {α : Type}

structure Tools where
  strokeWidth : Nat
  blending : Bool
deriving DecidableEq

namespace Tools

/-- The tools after a call. -/
def after (tools : Tools) : Call α → Tools
  | .setStrokeWidth width => { tools with strokeWidth := width }
  | .setBlending enabled => { tools with blending := enabled }
  | _ => tools

def afterAll (tools : Tools) (calls : List (Call α)) : Tools := calls.foldl after tools

end Tools

/-- All calls but those that set the width of strokes, each with the tools it is made with. -/
def madeWith (tools : Tools) : List (Call α) → List (Tools × Call α)
  | [] => []
  | call :: rest =>
    if call.setsWidth then madeWith (tools.after call) rest
    else (tools, call) :: madeWith (tools.after call) rest

variable {tools : Tools}

theorem madeWith_append (first second : List (Call α)) :
    madeWith tools (first ++ second) =
      madeWith tools first ++ madeWith (tools.afterAll first) second := by
  induction first generalizing tools with
  | nil => rfl
  | cons call rest ih =>
      rw [List.cons_append, madeWith, madeWith, ih]
      split <;> rfl

theorem madeWith_upTo {first second : List (Call α)} (front : first <+: second) :
    madeWith tools first <+: madeWith tools second := by
  obtain ⟨more, rfl⟩ := front
  exact ⟨_, (madeWith_append first more).symm⟩

end Drawing

namespace Canvas

open Drawing

variable {α : Type} [Scalar α] {typeface : Typeface α}

def tools (canvas : Canvas) : Tools := ⟨canvas.strokeWidth, canvas.blending⟩

/-- A canvas with another picture and other tools. -/
def withTools (canvas : Canvas) (picture : Picture) (tools : Tools) : Canvas where
  picture
  smooth := canvas.smooth
  blending := tools.blending
  strokeWidth := tools.strokeWidth

theorem perform_eq (canvas : Canvas) (call : Call α) :
    canvas.perform typeface call =
      canvas.withTools (canvas.perform typeface call).picture (canvas.tools.after call) := by
  cases call with
  | setStrokeWidth | setBlending => rfl
  | _ => exact paintAll_eq canvas _ _

/-- Paints what a call paints with some tools. -/
def stamp (typeface : Typeface α) (canvas : Canvas) (picture : Picture) (made : Tools × Call α) :
    Picture :=
  ((canvas.withTools picture made.1).perform typeface made.2).picture

theorem picture_performAll (canvas : Canvas) (calls : List (Call α)) :
    (canvas.performAll typeface calls).picture =
      (madeWith canvas.tools calls).foldl (canvas.stamp typeface) canvas.picture := by
  rw [performAll]
  induction calls generalizing canvas with
  | nil => rfl
  | cons call rest ih =>
      rw [List.foldl_cons, ih, perform_eq, madeWith]
      cases call with
      | setStrokeWidth => rfl
      | _ => rfl

/-- The same calls, made with the same tools, give the same picture. -/
theorem picture_performAll_congr {canvas : Canvas} {first second : List (Call α)}
    (same : madeWith canvas.tools first = madeWith canvas.tools second) :
    (canvas.performAll typeface first).picture = (canvas.performAll typeface second).picture := by
  rw [picture_performAll, picture_performAll, same]

end Canvas

end Vignette
