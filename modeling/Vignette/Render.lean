import Vignette.Canvas.Basic
import Vignette.Drawing.Traversal
import Vignette.Options

namespace Vignette.Document

/-! Pictures of documents. -/

def canvas (document : Document) (options : Options) : Except Fault Canvas :=
  Canvas.ofSize document.width document.height options.background options.smooth

/-- The picture of a document in a typeface. -/
def pictureIn (typeface : Typeface Float) (document : Document) (options : Options) :
    Except Fault Picture := do
  let canvas ← document.canvas options
  let drawn ← document.rendering options.mode
  return (canvas.performAll typeface drawn.calls).picture

end Vignette.Document
