import Vignette.Text.Part
import Vignette.Text.Lowercase
import Vignette.Text.Quoted

namespace Vignette.Path

/-! What a moveto in the middle of a path does to the vertices drawn so far. -/

inductive Mode where
  /-- All subpaths form one sequence of vertices. -/
  | continuous
  /-- Every moveto begins a sequence of its own. -/
  | discontinuous
deriving DecidableEq, Repr

/-- A mode as it is asked for: by a text or by a number. -/
inductive ModeName where
  | text (s : String)
  | number (n : Int)
deriving DecidableEq, Repr

def ModeName.spelling : ModeName → String
  | .text s => s
  | .number n => toString n

/-- How a mode's name is shown in a message: texts in quotes, numbers bare. -/
def ModeName.shown : ModeName → String
  | .text s => Text.quoted s
  | .number n => toString n

structure UnknownMode where
  name : ModeName
deriving DecidableEq, Repr

def UnknownMode.message (unknown : UnknownMode) : String :=
  "Unknown path mode: " ++ unknown.name.shown

namespace Mode

def name : Mode → String
  | .continuous => "continuous"
  | .discontinuous => "discontinuous"

/-- The mode with a name. Case and blanks around the name do not matter; zero and one are names
too. -/
def ofName (asked : ModeName) : Except UnknownMode Mode :=
  match Text.lower (Text.trimmed asked.spelling) with
  | "0" | "continuous" => .ok .continuous
  | "1" | "discontinuous" => .ok .discontinuous
  | _ => .error ⟨asked⟩

end Mode

end Vignette.Path
