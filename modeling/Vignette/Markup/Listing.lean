import Vignette.Markup.Node

namespace Vignette.Markup

/-! The listing of a tree: one line for each node, indented by its depth, with its first
attributes. -/

/-- The number of attributes that a line shows. -/
def shownAttributes : Nat := 3

/-- The line of a node. Depths below zero are not indented. -/
def listingLine (depth : Int) (element : Element) : String :=
  let entries := element.attributes.entries
  let shown := (entries.take shownAttributes).map fun entry => entry.1 ++ "=" ++ entry.2
  let more := if shownAttributes < entries.length then "..." else ""
  String.ofList (List.replicate (4 * depth).toNat ' ') ++ "- " ++ element.name ++ " (" ++
    ", ".intercalate shown ++ more ++ ")\n"

mutual

def Node.listing (depth : Int) : Node → String
  | .mk element _ children => listingLine depth element ++ listingAll (depth + 1) children

def listingAll (depth : Int) : List Node → String
  | [] => ""
  | node :: rest => node.listing depth ++ listingAll depth rest

end

end Vignette.Markup
