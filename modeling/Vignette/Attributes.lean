import Vignette.Bindings
import Vignette.Text.Lowercase
import Vignette.Text.Part

namespace Vignette.Attributes

/-! Attributes as elements carry them. Names do not depend on case, and an attribute without a
value, or with nothing but blanks for one, counts as missing. -/

variable {V : Type}

/-- The attributes that have a value at all. -/
def present (given : List (String × Option V)) : Bindings V :=
  .ofList (given.filterMap fun entry => entry.2.map fun value => (entry.1, value))

/-- Attributes under names in lower case, without those whose value is blank. Of several that come
to bear one name, the last one wins. -/
def normalized (blank : V → Bool) (attributes : Bindings V) : Bindings V :=
  .ofList ((attributes.entries.filter fun entry => !blank entry.2).map fun entry =>
    (Text.lower entry.1, entry.2))

def normalizedTexts (attributes : Bindings String) : Bindings String :=
  normalized Text.isBlankText attributes

end Vignette.Attributes
