import Vignette.Proofs.Markup.Clipping
import Vignette.Proofs.Markup.DocumentOrder

namespace Vignette.Markup

/-! Markup of trees with all values as they are, in quotes of a kind that they do not hold. It is
read without fault, and gives back the tree just if no value holds a closing bracket. Where one
does, the elements come back as they are up to the one with that value. -/

/-- Markup of nodes beside each other, with every value as it is. -/
inductive Quoted : List Node → List Char → Prop
  | nil : Quoted [] []
  | selfClosed {element : Element} {name attributes more : List Char} {rest : List Node}
      (isWritten : NameWritten element.name.toList name)
      (given : AttributesQuoted element.plainAttributes attributes) (later : Quoted rest more) :
      Quoted (.mk element "" [] :: rest) (bracketed (name ++ attributes) true ++ more)
  | enclosing {element : Element} {text : String}
      {name attributes written within closing more : List Char} {children rest : List Node}
      (isWritten : NameWritten element.name.toList name)
      (given : AttributesQuoted element.plainAttributes attributes)
      (worded : TextWritten text written) (inner : Quoted children within)
      (closes : NameWritten element.name.toList closing) (later : Quoted rest more) :
      Quoted (.mk element text children :: rest)
        (bracketed (name ++ attributes) false ++
          (written ++ (within ++ (bracketed ('/' :: closing) false ++ more))))

section Growing

variable {innermost : Frame} {outer : List Frame} {element : Element}
  {markup body leftover rest : List Char} {nodes : List Node}

/-- The elements that were read before the items come first in the tree that grows of them. -/
theorem grow_begins {items : List Item} {tree : Node}
    (grown : grow innermost outer items = .ok tree) :
    (listed innermost outer).map Entry.element <+: tree.preorder.map Node.element := by
  have outcome := grow_outcome items innermost outer
  rw [grown] at outcome
  cases outcome with
  | tree found accounts =>
      obtain ⟨⟨opened, _, whole⟩, _⟩ := accounts
      rw [Node.entries, List.map_map] at whole
      exact ⟨opened, whole.symm⟩

theorem elements_adopt (child : Node) :
    (listed (innermost.adopt child) outer).map Entry.element =
      (listed innermost outer).map Entry.element ++ child.preorder.map Node.element := by
  rw [listed_adopt, List.map_append, Node.entries, List.map_map]
  rfl

theorem elements_opened (text : String) :
    (listed ⟨element, text, []⟩ (innermost :: outer)).map Entry.element =
      (listed innermost outer).map Entry.element ++ [element] := by
  rw [listed, Frame.entries_childless rfl, List.map_append]
  rfl

/-- A tag adds its element to those read before, whatever comes behind it. -/
theorem Tagged.begins (tagged : Tagged markup element body leftover) {tree : Node}
    (grown : grow innermost outer (items (markup ++ rest)) = .ok tree) :
    (listed innermost outer).map Entry.element ++ [element] <+:
      tree.preorder.map Node.element := by
  rw [grow_tagged tagged] at grown
  split at grown
  · have begins := grow_begins grown
    rwa [elements_adopt] at begins
  · have begins := grow_begins grown
    rwa [elements_opened] at begins

theorem Quoted.laidOut (quoted : Quoted nodes markup)
    (quotable : ∀ node ∈ Node.preorderAll nodes, node.element.Quotable)
    (unbracketed : ∀ node ∈ Node.preorderAll nodes, node.element.Unbracketed) :
    LaidOut nodes markup := by
  induction quoted with
  | nil => exact .nil
  | @selfClosed element name attributes more rest isWritten given later ih =>
      obtain ⟨own, _, others⟩ := Node.forall_preorderAll_cons.mp quotable
      obtain ⟨here, _, elsewhere⟩ := Node.forall_preorderAll_cons.mp unbracketed
      exact .selfClosed (own.opens isWritten given here) (ih others elsewhere)
  | @enclosing element text name attributes written within closing more children rest isWritten
      given worded inner closes later ihInner ih =>
      obtain ⟨own, among, others⟩ := Node.forall_preorderAll_cons.mp quotable
      obtain ⟨here, inside, elsewhere⟩ := Node.forall_preorderAll_cons.mp unbracketed
      exact .enclosing (own.opens isWritten given here) worded (ihInner among inside) closes
        (ih others elsewhere)

theorem Quoted.head?_append (quoted : Quoted nodes markup)
    (follows : ∀ c, rest.head? = some c → c = '<') :
    ∀ c, (markup ++ rest).head? = some c → c = '<' := by
  cases quoted with
  | nil => exact follows
  | selfClosed isWritten given later => exact fun c found => (Option.some.inj found).symm
  | enclosing isWritten given worded inner closes later =>
      exact fun c found => (Option.some.inj found).symm

/-- Whatever tree grows, it has the elements of the markup in their order, up to the first that
holds a bracket. -/
theorem grow_quoted (quoted : Quoted nodes markup)
    (quotable : ∀ node ∈ Node.preorderAll nodes, node.element.Quotable) {tree : Node}
    (grown : grow innermost outer (items (markup ++ rest)) = .ok tree) :
    (listed innermost outer).map Entry.element ++
        untilBracket ((Node.preorderAll nodes).map Node.element) <+:
      tree.preorder.map Node.element := by
  induction quoted generalizing innermost outer rest with
  | nil => simpa [Node.preorderAll, untilBracket] using grow_begins grown
  | @selfClosed element name attributes more nodes isWritten given later ih =>
      obtain ⟨own, _, others⟩ := Node.forall_preorderAll_cons.mp quotable
      change _ ++ untilBracket (element :: (Node.preorderAll nodes).map Node.element) <+: _
      rw [List.append_assoc] at grown
      by_cases here : element.Unbracketed
      · rw [grow_opens (own.opens isWritten given here), if_pos rfl] at grown
        have begins := ih others grown
        rw [elements_adopt, List.append_assoc] at begins
        rw [untilBracket_of_unbracketed here]
        exact begins
      · obtain ⟨body, leftover, tagged, _⟩ := own.exists_tagged isWritten given true
        rw [untilBracket_of_bracketed here]
        exact tagged.begins grown
  | @enclosing element text name attributes written within closing more children nodes isWritten
      given worded inner closes later ihInner ih =>
      obtain ⟨own, among, others⟩ := Node.forall_preorderAll_cons.mp quotable
      have elements : (Node.preorderAll (.mk element text children :: nodes)).map Node.element =
          element :: ((Node.preorderAll children).map Node.element ++
            (Node.preorderAll nodes).map Node.element) := by
        rw [← List.map_append]
        rfl
      rw [elements]
      simp only [List.append_assoc] at grown
      by_cases here : element.Unbracketed
      · rw [grow_opensWithText (own.opens isWritten given here) worded
          (inner.head?_append (head?_bracketed _ _))] at grown
        rw [untilBracket_of_unbracketed here, untilBracket_append, List.append_cons]
        -- Only if no bracket stands in the children does it matter what follows them.
        split
        · next unbracketed =>
            rw [List.forall_mem_map] at unbracketed
            rw [grow_laidOut (inner.laidOut among unbracketed), List.nil_append] at grown
            have begins := ih others ((grow_closingTag closes _).symm.trans grown)
            rw [elements_adopt] at begins
            simpa [Frame.node, Node.preorder, Node.element] using begins
        · have begins := ihInner among grown
          rwa [elements_opened] at begins
      · obtain ⟨body, leftover, tagged, _⟩ := own.exists_tagged isWritten given false
        rw [untilBracket_of_bracketed here]
        exact tagged.begins grown

end Growing

section Readable

variable {element : Element} {markup body leftover text rest : List Char} {nodes : List Node}

theorem readable_text (unopened : '<' ∉ text) (resolvable : ¬ HasOverlong text)
    (follows : ∀ c, rest.head? = some c → c = '<')
    (readable : ∀ item ∈ items rest, item.Readable) :
    ∀ item ∈ items (text ++ rest), item.Readable := by
  cases text with
  | nil => exact readable
  | cons c more =>
      rw [items_textBefore (List.cons_ne_nil c more) unopened follows]
      refine List.forall_mem_cons.mpr ⟨?_, readable⟩
      simpa [Item.Readable, Item.referring] using resolvable

theorem Tagged.readable (tagged : Tagged markup element body leftover)
    (behind : ∀ item ∈ items (leftover ++ rest), item.Readable) :
    ∀ item ∈ items (markup ++ rest), item.Readable := by
  obtain ⟨rfl, bracketable, opening, read⟩ := tagged
  rw [List.append_assoc, items_bracketable bracketable]
  refine List.forall_mem_cons.mpr ⟨?_, behind⟩
  have values := (ofTag_succeeds (bracketed body false)).mp ⟨element, read⟩
  rw [Item.Readable, Item.referring, opening?_tag, isDeclaration_bracketable bracketable, opening]
  simpa using values

/-- What is left behind a tag does not make a reference of the text that follows. -/
theorem hasOverlong_append (unreferring : '&' ∉ leftover) :
    HasOverlong (leftover ++ text) ↔ HasOverlong text := by
  have dropped := @hasOverlong_drop (leftover ++ text) leftover.length (by simpa using unreferring)
  rw [List.drop_left] at dropped
  exact dropped.symm

theorem Quoted.readable (quoted : Quoted nodes markup)
    (quotable : ∀ node ∈ Node.preorderAll nodes, node.element.Quotable)
    (follows : ∀ c, rest.head? = some c → c = '<')
    (readable : ∀ item ∈ items rest, item.Readable) :
    ∀ item ∈ items (markup ++ rest), item.Readable := by
  induction quoted generalizing rest with
  | nil => exact readable
  | @selfClosed element name attributes more nodes isWritten given later ih =>
      obtain ⟨own, _, others⟩ := Node.forall_preorderAll_cons.mp quotable
      obtain ⟨body, leftover, tagged, unopened, unreferring⟩ :=
        own.exists_tagged isWritten given true
      rw [List.append_assoc]
      refine tagged.readable (readable_text unopened ?_ (later.head?_append follows) ?_)
      · rintro ⟨before, behind, rfl, _⟩
        simp at unreferring
      · exact ih others follows readable
  | @enclosing element text name attributes written within closing more children nodes isWritten
      given worded inner closes later ihInner ih =>
      obtain ⟨own, among, others⟩ := Node.forall_preorderAll_cons.mp quotable
      obtain ⟨body, leftover, tagged, unopened, unreferring⟩ :=
        own.exists_tagged isWritten given false
      simp only [List.append_assoc]
      refine tagged.readable ?_
      -- What is left of the tag and the text behind it are one text.
      rw [← List.append_assoc]
      refine readable_text ?_ ?_ (inner.head?_append (head?_bracketed _ _)) ?_
      · simp [unopened, worded.unopened]
      · rw [hasOverlong_append unreferring]
        exact (resolves_iff _).mp ⟨_, worded.reads⟩
      · refine ihInner among (head?_bracketed _ _) ?_
        rw [items_bracketed closes.enclosable_closing]
        refine List.forall_mem_cons.mpr ⟨?_, ih others follows readable⟩
        rw [Item.Readable, Item.referring, opening?_tag, isClosing_bracketed]
        simp

theorem mem_of_mem_counted {progress : Progress} {item : Item} {items : List Item}
    (member : item ∈ progress.counted items) : item ∈ items := by
  induction items generalizing progress with
  | nil => exact member
  | cons first more ih =>
      rw [Progress.counted] at member
      split at member
      · simp at member
      · exact (List.mem_cons.mp member).elim (fun same => same ▸ List.mem_cons_self)
          fun later => List.mem_cons_of_mem _ (ih later)

theorem Tagged.parses (tagged : Tagged markup element body leftover)
    (root : element.name = "svg") (readable : ∀ item ∈ items (markup ++ rest), item.Readable) :
    ∃ tree, treeOfItems (items (markup ++ rest)) = .ok tree := by
  have opens := opensRoot_tagged tagged root
  obtain ⟨rfl, bracketable, _, _⟩ := tagged
  rw [List.append_assoc, items_bracketable bracketable] at readable ⊢
  rw [treeOfItems, if_pos opens]
  have outcome := treeOfRoot_outcome opens (items (leftover ++ rest))
  generalize treeOfRoot _ _ = result at outcome
  cases outcome with
  | tree found accounts => exact ⟨_, rfl⟩
  | fault found =>
      obtain ⟨item, member, fault⟩ := List.exists_of_findSome?_eq_some found
      have among : item ∈ .tag (bracketed body false) :: items (leftover ++ rest) :=
        (List.mem_cons.mp member).elim (fun same => same ▸ List.mem_cons_self)
          fun later => List.mem_cons_of_mem _ (mem_of_mem_counted later)
      rw [(Item.fault?_eq_none_iff item).mpr (readable item among)] at fault
      contradiction

end Readable

section Root

variable {tree read : Node} {markup : List Char}

theorem eq_ok_of_mapError {ε δ α : Type} {result : Except ε α} {f : ε → δ} {value : α}
    (found : result.mapError f = .ok value) : result = .ok value := by
  cases result with
  | error reason => cases found
  | ok other => exact congrArg Except.ok (Except.ok.inj found)

/-- The root is read as its tag makes it. -/
theorem Tagged.begins_root {element : Element} {body leftover rest : List Char}
    (tagged : Tagged markup element body leftover) (root : element.name = "svg")
    (parsed : treeOfItems (items (markup ++ rest)) = .ok read) :
    [element] <+: read.preorder.map Node.element := by
  rw [treeOfItems_tagged tagged root] at parsed
  have grown := eq_ok_of_mapError parsed
  split at grown
  · obtain rfl := Except.ok.inj grown
    exact List.prefix_rfl
  · exact grow_begins grown

theorem Quoted.begins_root (quoted : Quoted [tree] markup)
    (quotable : ∀ node ∈ tree.preorder, node.element.Quotable) (root : tree.name = "svg")
    (parsed : treeOfItems (items markup) = .ok read) :
    untilBracket (tree.preorder.map Node.element) <+: read.preorder.map Node.element := by
  cases quoted with
  | @selfClosed element name attributes more _ isWritten given later =>
      obtain ⟨own, _⟩ := List.forall_mem_cons.mp quotable
      obtain ⟨body, leftover, tagged, _⟩ := own.exists_tagged isWritten given true
      change untilBracket [element] <+: _
      rw [untilBracket_singleton]
      exact tagged.begins_root root parsed
  | @enclosing element text name attributes written within closing more children _ isWritten given
      worded inner closes later =>
      obtain ⟨own, among⟩ := List.forall_mem_cons.mp quotable
      change untilBracket (element :: (Node.preorderAll children).map Node.element) <+: _
      by_cases here : element.Unbracketed
      · rw [treeOfItems_opensWithText (own.opens isWritten given here) root worded
          (inner.head?_append (head?_bracketed _ _))] at parsed
        rw [untilBracket_of_unbracketed here]
        exact grow_quoted inner among (eq_ok_of_mapError parsed)
      · obtain ⟨body, leftover, tagged, _⟩ := own.exists_tagged isWritten given false
        rw [untilBracket_of_bracketed here]
        exact tagged.begins_root root parsed

theorem Quoted.parses (quoted : Quoted [tree] markup)
    (quotable : ∀ node ∈ tree.preorder, node.element.Quotable) (root : tree.name = "svg") :
    ∃ read, treeOfItems (items markup) = .ok read := by
  have readable : ∀ item ∈ items (markup ++ []), item.Readable :=
    quoted.readable (by rwa [Node.preorderAll_singleton]) (by simp) (by simp [items])
  rw [List.append_nil] at readable
  cases quoted with
  | @selfClosed element name attributes more _ isWritten given later =>
      obtain ⟨own, _⟩ := List.forall_mem_cons.mp quotable
      obtain ⟨body, leftover, tagged, _⟩ := own.exists_tagged isWritten given true
      exact tagged.parses root readable
  | @enclosing element text name attributes written within closing more children _ isWritten given
      worded inner closes later =>
      obtain ⟨own, _⟩ := List.forall_mem_cons.mp quotable
      obtain ⟨body, leftover, tagged, _⟩ := own.exists_tagged isWritten given false
      exact tagged.parses root readable

end Root

/-- Markup of a tree whose root is named `svg`, with its values as they are in quotes, is read as
that tree just if no value holds a closing bracket. In any case it is read as a tree that has the
same elements, in the same order, up to the first with such a value, which loses that value and
those behind it. -/
theorem parse_quoted (tree : Node) (document : String) (root : tree.name = "svg")
    (quotable : ∀ node ∈ tree.preorder, node.element.Quotable)
    (quoted : Quoted [tree] document.toList) :
    ∃ read, parse document = .ok read ∧
      (read = tree ↔ ∀ node ∈ tree.preorder, node.element.Unbracketed) ∧
      untilBracket (tree.preorder.map Node.element) <+: read.preorder.map Node.element := by
  obtain ⟨read, parsed⟩ := quoted.parses quotable root
  have begins := quoted.begins_root quotable root parsed
  refine ⟨read, parsed, ⟨?_, fun unbracketed => ?_⟩, begins⟩
  · rintro rfl
    exact List.forall_mem_map.mp (unbracketed_of_begins begins)
  · have laidOut : LaidOut [tree] document.toList :=
      quoted.laidOut (by rwa [Node.preorderAll_singleton]) (by rwa [Node.preorderAll_singleton])
    rw [treeOfItems_laidOut laidOut root] at parsed
    exact (Except.ok.inj parsed).symm

instance (name written : List Char) : Decidable (NameWritten name written) :=
  decidable_of_iff (written ≠ [] ∧ written.all isNameChar = true ∧
      Text.lowerChars (localName written) = name)
    ⟨fun ⟨ne_nil, named, reads⟩ => ⟨ne_nil, List.all_eq_true.mp named, reads⟩,
      fun ⟨ne_nil, named, reads⟩ => ⟨ne_nil, List.all_eq_true.mpr named, reads⟩⟩

/-- Values that end like a tag, that look like an attribute, and that hold the other quotes. -/
def inscription : Node :=
  .mk ⟨"svg", ⟨[("viewBox", "0 0 1 1/")]⟩⟩ "a > b"
    [.mk ⟨"text", ⟨[("font", "say \"hi\" /"), ("d", " x='1' ")]⟩⟩ "" []]

def inscriptionMarkup : String :=
  "<svg viewBox=\"0 0 1 1/\">a > b<svg:Text font='say \"hi\" /'\n d=\" x='1' \" /></SVG>"

theorem parse_quoted_inscription :
    inscription.name = "svg" ∧ (∀ node ∈ inscription.preorder, node.element.Quotable) ∧
      Quoted [inscription] inscriptionMarkup.toList ∧
      parse inscriptionMarkup = .ok inscription := by
  have quotable : ∀ node ∈ inscription.preorder, node.element.Quotable := by decide
  have unbracketed : ∀ node ∈ inscription.preorder, node.element.Unbracketed := by decide
  have blank (gap : String) (all : gap.toList.all Text.isBlank = true) :
      ∀ c ∈ gap.toList, Text.isBlank c = true := List.all_eq_true.mp all
  have viewBox : AttributesQuoted
      (Element.plainAttributes ⟨"svg", ⟨[("viewBox", "0 0 1 1/")]⟩⟩)
      " viewBox=\"0 0 1 1/\"".toList :=
    @AttributesQuoted.cons " ".toList "viewBox".toList "0 0 1 1/".toList [] '"' [] (by decide)
      (blank " " rfl) (.inl rfl) (by decide) (.nil (blank "" rfl))
  have text : AttributesQuoted
      (Element.plainAttributes ⟨"text", ⟨[("font", "say \"hi\" /"), ("d", " x='1' ")]⟩⟩)
      " font='say \"hi\" /'\n d=\" x='1' \" ".toList :=
    @AttributesQuoted.cons " ".toList "font".toList "say \"hi\" /".toList _ '\'' _ (by decide)
      (blank " " rfl) (.inr rfl) (by decide)
      (@AttributesQuoted.cons "\n ".toList "d".toList " x='1' ".toList " ".toList '"' [] (by decide)
        (blank "\n " rfl) (.inl rfl) (by decide) (.nil (blank " " rfl)))
  have words : TextWritten "a > b" "a > b".toList :=
    ⟨by decide, resolveReferences_plain (by decide)⟩
  have svg : NameWritten "svg".toList "svg".toList := by decide
  have capitals : NameWritten "svg".toList "SVG".toList := by decide
  have qualified : NameWritten "text".toList "svg:Text".toList := by decide
  obtain ⟨markup, quoted, same⟩ :
      ∃ markup, Quoted [inscription] markup ∧ markup = inscriptionMarkup.toList :=
    ⟨_, .enclosing svg viewBox words (.selfClosed qualified text .nil) capitals .nil,
      by decide +kernel⟩
  rw [same] at quoted
  obtain ⟨read, parsed, exactly, _⟩ :=
    parse_quoted inscription inscriptionMarkup rfl quotable quoted
  rw [exactly.mpr unbracketed] at parsed
  exact ⟨rfl, quotable, quoted, parsed⟩

/-- A value with a closing bracket in quotes of the other kind. -/
def overrun : Node := .mk ⟨"svg", ⟨[("a", "x>y")]⟩⟩ "" []

/-- The value is lost, and its end becomes a text, though the whole tag by itself has the value. -/
theorem parse_overrun :
    (∀ node ∈ overrun.preorder, node.element.Quotable) ∧
      Quoted [overrun] "<svg a=\"x>y\"/>".toList ∧
      parse "<svg a=\"x>y\"/>" = .ok (.mk ⟨"svg", .empty⟩ "y\"/>" []) ∧
      parse "<svg a=\"x>y\"/>" ≠ .ok overrun ∧
      Element.ofTag "<svg a=\"x>y\"/>".toList = .ok overrun.element := by
  have attributes : AttributesQuoted (Element.plainAttributes ⟨"svg", ⟨[("a", "x>y")]⟩⟩)
      " a=\"x>y\"".toList :=
    @AttributesQuoted.cons " ".toList "a".toList "x>y".toList [] '"' [] (by decide)
      (List.all_eq_true.mp rfl) (.inl rfl) (by decide) (.nil (by simp))
  have svg : NameWritten "svg".toList "svg".toList := by decide
  have cut : items "<svg a=\"x>y\"/>".toList =
      [.tag "<svg a=\"x>".toList, .text "y\"/>".toList] := by
    decide +kernel
  have rest : resolveReferences "y\"/>".toList = .ok "y\"/>".toList :=
    resolveReferences_plain (by decide)
  have parsed : parse "<svg a=\"x>y\"/>" = .ok (.mk ⟨"svg", .empty⟩ "y\"/>" []) := by
    have opens : opensRoot "<svg a=\"x>".toList = true := by decide
    have made : Frame.ofTag "<svg a=\"x>".toList = .ok ⟨⟨"svg", .empty⟩, "", []⟩ := by rfl
    rw [parse, cut, treeOfItems, if_pos opens, treeOfRoot, made]
    change Except.mapError Unreadable.fault (grow ⟨⟨"svg", .empty⟩, "", []⟩ [] _) = _
    rw [grow, rest]
    rfl
  have quotable : overrun.element.Quotable := by decide
  refine ⟨by decide, ?_, parsed, ?_, ?_⟩
  · exact .selfClosed svg attributes .nil
  · rw [parsed]
    intro same
    cases Except.ok.inj same
  · have found : inside "<svg a=\"x>y\"/>".toList = "svg".toList ++ " a=\"x>y\"".toList := by
      decide
    exact ofTag_of_inside found svg (by decide) attributes.blank_of_head?
      (attributes.attributeList_eq quotable.plainAttributes_keyed) quotable.resolved
      quotable.distinct

end Vignette.Markup
