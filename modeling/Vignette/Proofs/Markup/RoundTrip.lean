import Vignette.Proofs.Markup.Escaping
import Vignette.Proofs.Markup.Layout

namespace Vignette.Markup

/-! Markup gives back the tree that was written in it. Written is every element between its tags, or
in one tag if there is nothing in it, and every text and every value with references for the
characters that have a meaning. -/

/-- An element that markup can hold: its name needs no qualifier and is in lower case, and its
attributes have different names. -/
structure Element.Writable (element : Element) : Prop where
  isLocal : IsLocalName element.name.toList
  named : ∀ entry ∈ element.attributes.entries, ∀ c ∈ entry.1.toList, isNameChar c = true
  distinct : (element.attributes.entries.map Prod.fst).Nodup

instance (name : List Char) : Decidable (IsLocalName name) :=
  decidable_of_iff (name ≠ [] ∧ name.all isNameChar = true ∧ ':' ∉ name ∧
      Text.lowerChars name = name)
    ⟨fun ⟨ne_nil, named, unqualified, lowered⟩ =>
        ⟨ne_nil, List.all_eq_true.mp named, unqualified, lowered⟩,
      fun ⟨ne_nil, named, unqualified, lowered⟩ =>
        ⟨ne_nil, List.all_eq_true.mpr named, unqualified, lowered⟩⟩

instance (element : Element) : Decidable element.Writable :=
  decidable_of_iff (IsLocalName element.name.toList ∧
      (∀ entry ∈ element.attributes.entries, entry.1.toList.all isNameChar = true) ∧
      (element.attributes.entries.map Prod.fst).Nodup)
    ⟨fun ⟨isLocal, named, distinct⟩ =>
        ⟨isLocal, fun entry member => List.all_eq_true.mp (named entry member), distinct⟩,
      fun ⟨isLocal, named, distinct⟩ =>
        ⟨isLocal, fun entry member => List.all_eq_true.mpr (named entry member), distinct⟩⟩

def Element.rawAttributes (element : Element) : List (List Char × List Char) :=
  element.attributes.entries.map fun entry => (entry.1.toList, escaped entry.2.toList)

/-- Markup of nodes beside each other. -/
inductive Written : List Node → List Char → Prop
  | nil : Written [] []
  | selfClosed {element : Element} {attributes more : List Char} {rest : List Node}
      (given : AttributesWritten element.rawAttributes attributes) (later : Written rest more) :
      Written (.mk element "" [] :: rest)
        (bracketed (element.name.toList ++ attributes) true ++ more)
  | enclosing {element : Element} {text : String} {attributes within more : List Char}
      {children rest : List Node} (given : AttributesWritten element.rawAttributes attributes)
      (inner : Written children within) (later : Written rest more) :
      Written (.mk element text children :: rest)
        (bracketed (element.name.toList ++ attributes) false ++ (escaped text.toList ++
          (within ++ (bracketed ('/' :: element.name.toList) false ++ more))))

section Elements

variable {element : Element} {attributes : List Char} {closes : Bool}

theorem not_mem_rawAttributes {mark : Char} (meaning : mark ∈ ['<', '>', '"', '\'']) :
    ∀ entry ∈ element.rawAttributes, mark ∉ entry.2 := by
  intro raw member
  obtain ⟨entry, _, rfl⟩ := List.mem_map.mp member
  exact not_mem_escaped meaning _

theorem textWritten_escaped (text : String) : TextWritten text (escaped text.toList) where
  unopened := not_mem_escaped (by decide) _
  reads := resolveReferences_escaped _

namespace Element.Writable

theorem rawAttributes_keyed (writable : element.Writable) :
    ∀ entry ∈ element.rawAttributes, ∀ c ∈ entry.1, isKeyChar c = true := by
  intro raw member c within
  obtain ⟨entry, among, rfl⟩ := List.mem_map.mp member
  exact isKeyChar_of_isNameChar (writable.named entry among c within)

theorem opens (writable : element.Writable)
    (given : AttributesWritten element.rawAttributes attributes) :
    Opens (element.name.toList ++ attributes) element :=
  opens_of_quoted writable.isLocal.written (given.quoted (not_mem_rawAttributes (by decide)))
    writable.rawAttributes_keyed (not_mem_rawAttributes (by decide))
    (mapM_resolvedAttribute escaped _ fun _ _ => resolveReferences_escaped _) writable.distinct

theorem enclosable_name (writable : element.Writable) :
    Enclosable ('/' :: element.name.toList) := writable.isLocal.written.enclosable_closing

end Element.Writable

theorem tagName_closing (writable : element.Writable) :
    tagName (bracketed ('/' :: element.name.toList) closes) = element.name :=
  writable.isLocal.written.tagName_closing.trans String.ofList_toList

end Elements

section Growing

variable {element : Element} {attributes markup : List Char} {closes : Bool} {outer : List Frame}
  {nodes : List Node}

/-- Markup begins with a bracket, so that a text in front of it ends there. -/
theorem Written.head?_append (written : Written nodes markup) {rest : List Char}
    (follows : ∀ c, rest.head? = some c → c = '<') :
    ∀ c, (markup ++ rest).head? = some c → c = '<' := by
  cases written with
  | nil => exact follows
  | selfClosed given later => exact fun c found => (Option.some.inj found).symm
  | enclosing given inner later => exact fun c found => (Option.some.inj found).symm

/-- The text of an element is read up to the markup in it or, if there is none, its closing tag. -/
theorem grow_textBefore (written : Written nodes markup) (text : String) (body rest : List Char) :
    grow ⟨element, "", []⟩ outer
        (items (escaped text.toList ++ (markup ++ (bracketed body closes ++ rest)))) =
      grow ⟨element, text, []⟩ outer (items (markup ++ (bracketed body closes ++ rest))) :=
  grow_textInFront (textWritten_escaped text) (written.head?_append (head?_bracketed body rest))

theorem Written.laidOut (written : Written nodes markup)
    (writable : ∀ node ∈ Node.preorderAll nodes, node.element.Writable) : LaidOut nodes markup := by
  induction written with
  | nil => exact .nil
  | @selfClosed element attributes more nodes given later ih =>
      obtain ⟨own, _, others⟩ := Node.forall_preorderAll_cons.mp writable
      exact .selfClosed (own.opens given) (ih others)
  | @enclosing element text attributes within more children nodes given inner later ihInner ih =>
      obtain ⟨own, among, others⟩ := Node.forall_preorderAll_cons.mp writable
      exact .enclosing (own.opens given) (textWritten_escaped text) (ihInner among)
        own.isLocal.written (ih others)

/-- Markup adds to the innermost open element the nodes that are written in it. -/
theorem grow_written (written : Written nodes markup)
    (writable : ∀ node ∈ Node.preorderAll nodes, node.element.Writable) (innermost : Frame)
    (outer : List Frame) (rest : List Char) :
    grow innermost outer (items (markup ++ rest)) =
      grow { innermost with children := innermost.children ++ nodes } outer (items rest) :=
  grow_laidOut (written.laidOut writable) innermost outer rest

theorem treeOfItems_bracketed (writable : element.Writable)
    (given : AttributesWritten element.rawAttributes attributes) (root : element.name = "svg")
    (rest : List Char) :
    treeOfItems (items (bracketed (element.name.toList ++ attributes) closes ++ rest)) =
      (if closes then .ok (.mk element "" [])
        else grow ⟨element, "", []⟩ [] (items rest)).mapError .fault :=
  treeOfItems_opens (writable.opens given) root rest

end Growing

/-- Markup of a tree whose root is named `svg` is read as that tree: the same names, attributes,
texts and children, each in the same order. -/
theorem parse_written (tree : Node) (document : String) (root : tree.name = "svg")
    (writable : ∀ node ∈ tree.preorder, node.element.Writable)
    (written : Written [tree] document.toList) : parse document = .ok tree := by
  rw [parse]
  generalize document.toList = markup at written
  cases written with
  | @selfClosed element attributes more _ given later =>
      have own : element.Writable := writable (.mk element "" []) List.mem_cons_self
      rw [treeOfItems_bracketed own given root, if_pos rfl]
      rfl
  | @enclosing element text attributes within more children _ given inner later =>
      have own : element.Writable := writable (.mk element text children) List.mem_cons_self
      have among : ∀ node ∈ Node.preorderAll children, node.element.Writable := fun node member =>
        writable node (List.mem_cons_of_mem _ member)
      rw [treeOfItems_bracketed own given root, if_neg Bool.false_ne_true, grow_textBefore inner,
        grow_written inner among, List.nil_append,
        items_bracketed own.enclosable_name,
        grow_closingRoot (isClosing_bracketed _ _) (tagName_closing own)]
      rfl

/-- A group in a group, with a text and a value that are full of marks. -/
def quotation : Node :=
  .mk ⟨"svg", ⟨[("viewBox", "0 0 1 1")]⟩⟩ "a < b & 'c'"
    [.mk ⟨"g", ⟨[("xml:id", "x/"), ("Class", "\"></g>")]⟩⟩ "" [.mk ⟨"g", .empty⟩ "" []]]

def quotationMarkup : String :=
  "<svg viewBox=\"0 0 1 1\">a &lt; b &amp; &#39;c&#39;" ++
    "<g xml:id=\"x/\"\n  Class=\"&quot;&gt;&lt;/g&gt;\"><g/></g></svg>"

theorem parse_written_quotation :
    quotation.name = "svg" ∧ (∀ node ∈ quotation.preorder, node.element.Writable) ∧
      Written [quotation] quotationMarkup.toList ∧ parse quotationMarkup = .ok quotation := by
  have writable : ∀ node ∈ quotation.preorder, node.element.Writable := by decide
  have blank (gap : String) (all : gap.toList.all Text.isBlank = true) :
      ∀ c ∈ gap.toList, Text.isBlank c = true := List.all_eq_true.mp all
  have viewBox : AttributesWritten (Element.rawAttributes ⟨"svg", ⟨[("viewBox", "0 0 1 1")]⟩⟩)
      " viewBox=\"0 0 1 1\"".toList :=
    @AttributesWritten.cons " ".toList "viewBox".toList "0 0 1 1".toList [] [] (by decide)
      (blank " " rfl) (.nil (blank "" rfl))
  have group : AttributesWritten
      (Element.rawAttributes ⟨"g", ⟨[("xml:id", "x/"), ("Class", "\"></g>")]⟩⟩)
      " xml:id=\"x/\"\n  Class=\"&quot;&gt;&lt;/g&gt;\"".toList :=
    @AttributesWritten.cons " ".toList "xml:id".toList "x/".toList _ _ (by decide) (blank " " rfl)
      (@AttributesWritten.cons "\n  ".toList "Class".toList "&quot;&gt;&lt;/g&gt;".toList [] []
        (by decide) (blank "\n  " rfl) (.nil (blank "" rfl)))
  have bare : AttributesWritten (Element.rawAttributes ⟨"g", .empty⟩) [] := .nil (by simp)
  obtain ⟨markup, written, same⟩ :
      ∃ markup, Written [quotation] markup ∧ markup = quotationMarkup.toList :=
    ⟨_, .enclosing viewBox (.enclosing group (.selfClosed bare .nil) .nil) .nil, by decide +kernel⟩
  rw [same] at written
  exact ⟨rfl, writable, written, parse_written quotation quotationMarkup rfl writable written⟩

end Vignette.Markup
