import Vignette.Bindings
import Vignette.Text.Lowercase
import Vignette.Text.Part

namespace Vignette.Style

/-! Declarations: properties with values, as sheets and elements state them. -/

/-- Values of properties, by names in lower case. -/
abbrev Declarations := Bindings String

/-- Reads one declaration: a name, a colon, a value. Neither may be blank. -/
def declaration? (chunk : List Char) : Option (String × String) :=
  (Text.cutAtFirst ':' chunk).bind fun (before, behind) =>
    let name := Text.lowerChars (Text.trim before)
    let value := Text.trim behind
    if name.isEmpty || value.isEmpty then none
    else some (String.ofList name, String.ofList value)

/-- The declarations between semicolons, in order. What is no declaration is passed over. -/
def declarationList (text : List Char) : List (String × String) :=
  (Text.splitAtEach (· == ';') text).filterMap declaration?

/-- Reads declarations; of several for one property the last one wins. -/
def declarationsOf (text : List Char) : Declarations := .ofList (declarationList text)

def declarations (text : String) : Declarations := declarationsOf text.toList

end Vignette.Style
