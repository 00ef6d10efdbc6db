import Vignette.Document

namespace Vignette

/-! Warnings about elements that lack what they are drawn from. The attributes count as they are
written: names in capitals are others. -/

/-- What an element lacks. -/
inductive Complaint where
  | circleWithoutRadius
  | ellipseWithoutRadii
  | rectangleWithoutSize
  | lineWithout (names : List String)
  | withoutPoints (name : String)
  | tooFewPoints (name : String)
  | pathWithoutData
deriving DecidableEq, Repr

def Complaint.message : Complaint → String
  | .circleWithoutRadius => "<circle> should have radius (r)"
  | .ellipseWithoutRadii => "<ellipse> should have rx and ry"
  | .rectangleWithoutSize => "<rect> should have width and height"
  | .lineWithout names => "<line> missing attributes: " ++ ", ".intercalate names
  | .withoutPoints name => "<" ++ name ++ "> should have points attribute"
  | .tooFewPoints name => "<" ++ name ++ "> has fewer than two points"
  | .pathWithoutData => "<path> should have 'd' (path data) attribute"

namespace Markup.Element

/-- The names among some that the attributes of an element lack. -/
def lacking (element : Element) (names : List String) : List String :=
  names.filter fun name => !element.attributes.binds name

def complaintAboutPoints? (element : Element) : Option Complaint :=
  let list := element.attributes.getD "points" ""
  if Text.isBlankText list then some (.withoutPoints element.name)
  else if (Path.points list).length < 2 then some (.tooFewPoints element.name)
  else none

def complaint? (element : Element) : Option Complaint :=
  let lacks (names : List String) : Bool := !(element.lacking names).isEmpty
  match element.name with
  | "circle" => if lacks ["r"] then some .circleWithoutRadius else none
  | "ellipse" => if lacks ["rx", "ry"] then some .ellipseWithoutRadii else none
  | "rect" => if lacks ["width", "height"] then some .rectangleWithoutSize else none
  | "line" =>
    let missing := element.lacking ["x1", "y1", "x2", "y2"]
    if missing.isEmpty then none else some (.lineWithout missing)
  | "polyline" | "polygon" => element.complaintAboutPoints?
  | "path" =>
    if Text.isBlankText (element.attributes.getD "d" "") then some .pathWithoutData else none
  | _ => none

end Markup.Element

namespace Document

/-- All complaints about a document, in the order of its elements. -/
def complaints (document : Document) : List Complaint :=
  document.root.preorder.filterMap fun node => node.element.complaint?

def report (document : Document) : String :=
  match document.complaints with
  | [] => "SVG validation: [OK] Valid\n"
  | complaints =>
    "SVG validation: [WARNING] Warnings:\n" ++
      String.join (complaints.map fun complaint => "  WARNING: " ++ complaint.message ++ "\n")

end Document

end Vignette
