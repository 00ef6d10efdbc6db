import Vignette.Proofs.Drawing.Discipline

namespace Vignette

/-! Trees without their style elements. If these contain no elements, the places in such a tree are
those of the tree itself, less those of style elements; and what has its turn next behind a style
element is in the same element as that, or is the element around it. -/

namespace Markup

def Place.isStyle (place : Place) : Bool := place.element.name = "style"

/-- Places without those of style elements. -/
def plainPlaces (places : List Place) : List Place := places.filter fun place => !place.isStyle

theorem plainPlaces_cons_of_style {place : Place} (style : place.isStyle = true)
    (rest : List Place) : plainPlaces (place :: rest) = plainPlaces rest :=
  List.filter_cons_of_neg (by rw [style]; decide)

theorem plainPlaces_cons_of_plain {place : Place} (plain : place.isStyle = false)
    (rest : List Place) : plainPlaces (place :: rest) = place :: plainPlaces rest :=
  List.filter_cons_of_pos (by rw [plain]; rfl)

theorem plainPlaces_append (first second : List Place) :
    plainPlaces (first ++ second) = plainPlaces first ++ plainPlaces second :=
  List.filter_append _ _

theorem mem_of_mem_plainPlaces {place : Place} {places : List Place}
    (member : place ∈ plainPlaces places) : place ∈ places :=
  (List.mem_filter.mp member).1

namespace Node

def isStyle (node : Node) : Bool := node.name = "style"

/-- The texts of all style elements, in order. -/
def sheets (root : Node) : List String := (root.preorder.filter isStyle).map text

mutual

/-- A node without the style elements in it. -/
def unstyled : Node → Node
  | .mk element text children => .mk element text (unstyledAll children)

def unstyledAll : List Node → List Node
  | [] => []
  | node :: rest => if node.isStyle then unstyledAll rest else node.unstyled :: unstyledAll rest

end

def StylesAreLeaves (nodes : List Node) : Prop :=
  ∀ node ∈ nodes, node.isStyle = true → node.children = []

variable {node : Node} {nodes : List Node}

theorem StylesAreLeaves.inside (leaves : StylesAreLeaves node.preorder) :
    StylesAreLeaves (preorderAll node.children) := by
  obtain ⟨element, text, children⟩ := node
  exact fun inner member => leaves inner (List.mem_cons_of_mem _ member)

theorem StylesAreLeaves.head (leaves : StylesAreLeaves (preorderAll (node :: nodes))) :
    StylesAreLeaves node.preorder :=
  fun inner member => leaves inner (List.mem_append_left _ member)

theorem StylesAreLeaves.tail (leaves : StylesAreLeaves (preorderAll (node :: nodes))) :
    StylesAreLeaves (preorderAll nodes) :=
  fun inner member => leaves inner (List.mem_append_right _ member)

theorem StylesAreLeaves.placesFrom_eq (leaves : StylesAreLeaves node.preorder)
    (style : node.isStyle = true) (around : List Element) :
    node.placesFrom around = [⟨around, node.element, node.text⟩] := by
  obtain ⟨element, text, children⟩ := node
  obtain rfl : children = [] := leaves _ List.mem_cons_self style
  rfl

mutual

theorem placesFrom_unstyled (around : List Element) (node : Node)
    (leaves : StylesAreLeaves node.preorder) (plain : node.isStyle = false) :
    node.unstyled.placesFrom around = plainPlaces (node.placesFrom around) := by
  obtain ⟨element, text, children⟩ := node
  have own : (⟨around, element, text⟩ : Place).isStyle = false := plain
  rw [unstyled, Node.placesFrom, Node.placesFrom, plainPlaces_append, plainPlaces_cons_of_plain own,
    placesAllFrom_unstyled (around ++ [element]) children leaves.inside]
  rfl

theorem placesAllFrom_unstyled (around : List Element) (nodes : List Node)
    (leaves : StylesAreLeaves (preorderAll nodes)) :
    placesAllFrom around (unstyledAll nodes) = plainPlaces (placesAllFrom around nodes) := by
  cases nodes with
  | nil => rfl
  | cons node rest =>
      have later := placesAllFrom_unstyled around rest leaves.tail
      rw [unstyledAll, placesAllFrom, plainPlaces_append, ← later]
      cases style : node.isStyle with
      | true =>
          have own : (⟨around, node.element, node.text⟩ : Place).isStyle = true := style
          rw [leaves.head.placesFrom_eq style, plainPlaces_cons_of_style own]
          rfl
      | false =>
          rw [← placesFrom_unstyled around node leaves.head style]
          rfl

end

theorem places_unstyled {root : Node} (leaves : StylesAreLeaves root.preorder) :
    root.unstyled.places = plainPlaces root.places := by
  obtain ⟨element, text, children⟩ := root
  exact placesAllFrom_unstyled [] children leaves.inside

theorem element_unstyled (node : Node) : node.unstyled.element = node.element := by
  obtain ⟨element, text, children⟩ := node
  rfl

theorem attributes_of_unstyled {first second : Node} (same : first.unstyled = second.unstyled) :
    first.attributes = second.attributes := by
  rw [attributes, attributes, ← element_unstyled first, same, element_unstyled]

/-- Whether the first of some places, style elements left out, is in an element or is that element.
The path to the element is given. -/
def NextIn (path : List Element) (places : List Place) : Prop :=
  ∃ next more, plainPlaces places = next :: more ∧ path <+: next.path

theorem NextIn.append {path : List Element} {places : List Place} (next : NextIn path places)
    (more : List Place) : NextIn path (places ++ more) := by
  obtain ⟨first, others, plain, inside⟩ := next
  exact ⟨first, _, by rw [plainPlaces_append, plain, List.cons_append], inside⟩

mutual

theorem nextIn_of_placesFrom (around : List Element) (node : Node)
    (leaves : StylesAreLeaves node.preorder) {front back : List Place} {place : Place}
    (split : node.placesFrom around = front ++ place :: back) (style : place.isStyle = true) :
    NextIn place.around back ∨ place.around = around ∧ plainPlaces back = [] := by
  obtain ⟨element, text, children⟩ := node
  rw [Node.placesFrom] at split
  rcases Drawing.append_eq_append_cons split with ⟨more, inner, rfl⟩ | ⟨more, _, own⟩
  · refine .inl ?_
    have plain : (⟨around, element, text⟩ : Place).isStyle = false := by
      cases named : (⟨around, element, text⟩ : Place).isStyle with
      | false => rfl
      | true =>
          obtain rfl : children = [] := leaves _ List.mem_cons_self named
          simp [placesAllFrom] at inner
    rcases nextIn_of_placesAllFrom _ children leaves.inside inner style with next | ⟨last, none⟩
    · exact next.append _
    · refine ⟨⟨around, element, text⟩, [], ?_, by rw [last]; exact List.prefix_rfl⟩
      rw [plainPlaces_append, none, plainPlaces_cons_of_plain plain]
      rfl
  · obtain ⟨rfl, rfl, rfl⟩ : more = [] ∧ place = ⟨around, element, text⟩ ∧ back = [] := by
      simpa [List.singleton_eq_append_iff, and_assoc] using own
    exact .inr ⟨rfl, rfl⟩

theorem nextIn_of_placesAllFrom (around : List Element) (nodes : List Node)
    (leaves : StylesAreLeaves (preorderAll nodes)) {front back : List Place} {place : Place}
    (split : placesAllFrom around nodes = front ++ place :: back) (style : place.isStyle = true) :
    NextIn place.around back ∨ place.around = around ∧ plainPlaces back = [] := by
  cases nodes with
  | nil => simp [placesAllFrom] at split
  | cons node rest =>
      rcases Drawing.append_eq_append_cons split with ⟨more, inner, rfl⟩ | ⟨more, _, later⟩
      · rcases nextIn_of_placesFrom around node leaves.head inner style with next | ⟨last, none⟩
        · exact .inl (next.append _)
        · have behind : plainPlaces (more ++ placesAllFrom around rest) =
              plainPlaces (placesAllFrom around rest) := by
            rw [plainPlaces_append, none, List.nil_append]
          cases others : plainPlaces (placesAllFrom around rest) with
          | nil => exact .inr ⟨last, behind.trans others⟩
          | cons next later =>
              have member := mem_of_mem_plainPlaces (others ▸ List.mem_cons_self)
              refine .inl ⟨next, later, behind.trans others, ?_⟩
              rw [last]
              exact path_of_mem_placesAllFrom around rest next member
      · exact nextIn_of_placesAllFrom around rest leaves.tail later style

end

/-- Behind a style element inside of another element, that one or some other element in it has its
turn next. -/
theorem nextIn_of_places {root : Node} (leaves : StylesAreLeaves root.preorder)
    {front back : List Place} {place : Place} (split : root.places = front ++ place :: back)
    (style : place.isStyle = true) (inner : place.around ≠ []) : NextIn place.around back := by
  obtain ⟨element, text, children⟩ := root
  rcases nextIn_of_placesAllFrom [] children leaves.inside split style with next | ⟨last, _⟩
  · exact next
  · exact absurd last inner

end Node

end Markup

end Vignette
