import Vignette.Proofs.Bindings
import Vignette.Proofs.Markup.Growth
import Vignette.Proofs.Markup.Tags

namespace Vignette.Markup

/-! Markup laid out as a tree: every element between its tags, or in one tag if there is nothing in
it, and its text in front of the elements in it. However names, attributes and texts are spelled,
reading the markup gives back the tree, if each tag and each text by itself is read as it should
be. -/

/-- How the name of an element may be written: in capitals too, and with a qualifier. -/
structure NameWritten (name written : List Char) : Prop where
  ne_nil : written ≠ []
  named : ∀ c ∈ written, isNameChar c = true
  reads : Text.lowerChars (localName written) = name

theorem IsLocalName.written {name : List Char} (isLocal : IsLocalName name) :
    NameWritten name name where
  ne_nil := isLocal.ne_nil
  named := isLocal.named
  reads := by rw [localName_of_unqualified isLocal.unqualified, isLocal.lowered]

namespace NameWritten

variable {name written behind tag : List Char} {closes : Bool}

theorem ne_of_mem (isWritten : NameWritten name written) {c mark : Char} (member : c ∈ written)
    (unnamed : isNameChar mark = false) : c ≠ mark :=
  Text.ne_of_class (isWritten.named c member) unnamed

/-- With a name in front, a text in brackets is one tag, whatever follows the name in it. -/
theorem bracketable (isWritten : NameWritten name written) (unbracketed : '>' ∉ behind) :
    Bracketable (written ++ behind) where
  ne_nil := List.append_ne_nil_of_left_ne_nil isWritten.ne_nil _
  unbracketed := by
    rw [List.mem_append, not_or]
    exact ⟨fun member => isWritten.ne_of_mem member (by decide) rfl, unbracketed⟩
  first := by
    intro c found
    obtain ⟨first, more, whole⟩ := List.exists_cons_of_ne_nil isWritten.ne_nil
    rw [whole] at found
    obtain rfl := Option.some.inj found
    have member : first ∈ written := whole ▸ List.mem_cons_self
    refine ⟨?_, ?_, ?_⟩
    all_goals exact isWritten.ne_of_mem member (by decide)

/-- A name is enough for a tag that closes an element. -/
theorem enclosable_closing (isWritten : NameWritten name written) :
    Enclosable ('/' :: written) where
  ne_nil := List.cons_ne_nil _ _
  unbracketed := by
    rw [List.mem_cons, not_or]
    exact ⟨by decide, fun member => isWritten.ne_of_mem member (by decide) rfl⟩
  first := by
    intro c found
    obtain rfl := Option.some.inj found
    decide
  last := by
    intro c found
    obtain ⟨first, more, whole⟩ := List.exists_cons_of_ne_nil isWritten.ne_nil
    rw [whole, List.getLast?_cons_cons, ← whole] at found
    exact isWritten.ne_of_mem (List.mem_of_getLast? found) (by decide)

theorem tagName_closing (isWritten : NameWritten name written) :
    tagName (bracketed ('/' :: written) closes) = String.ofList name := by
  have found : inside (bracketed ('/' :: written) closes) = ['/'] ++ (written ++ []) := by
    rw [inside_bracketed isWritten.enclosable_closing, List.append_nil, List.singleton_append]
  rw [tagName, tagNameChars_of_inside found isWritten.ne_nil isWritten.named (by simp) (by simp),
    isWritten.reads]

theorem isClosing_opening (isWritten : NameWritten name written) (behind : List Char) :
    isClosing (bracketed (written ++ behind) closes) = false := by
  obtain ⟨first, more, whole⟩ := List.exists_cons_of_ne_nil isWritten.ne_nil
  have member : first ∈ written := whole ▸ List.mem_cons_self
  rw [whole, List.cons_append, isClosing_bracketed]
  exact beq_eq_false_iff_ne.mpr (isWritten.ne_of_mem member (by decide))

end NameWritten

theorem tagName_of_ofTag {tag : List Char} {element : Element}
    (read : Element.ofTag tag = .ok element) : tagName tag = element.name := by
  rw [Element.ofTag] at read
  cases found : attributesOf tag with
  | error reason => rw [found] at read; cases read
  | ok attributes =>
      rw [found] at read
      obtain rfl := Except.ok.inj read
      rfl

/-- What a tag holds behind a name decides, with the name, which element it opens. -/
theorem ofTag_of_inside {tag name markup : List Char} {element : Element}
    {raw : List (List Char × List Char)} (found : inside tag = name ++ markup)
    (isWritten : NameWritten element.name.toList name) (opens : isClosing tag = false)
    (ends : ∀ c, markup.head? = some c → Text.isBlank c = true)
    (listed : attributeList (.name []) markup = raw)
    (resolved : raw.mapM resolvedAttribute = .ok element.attributes.entries)
    (distinct : (element.attributes.entries.map Prod.fst).Nodup) :
    Element.ofTag tag = .ok element := by
  have nameless (c : Char) (head : markup.head? = some c) : isNameChar c = false := by
    apply Bool.eq_false_iff.mpr
    intro named
    exact Text.ne_of_class (ends c head) (isBlank_of_isNameChar named) rfl
  have name : tagName tag = element.name := by
    rw [tagName, @tagNameChars_of_inside tag name markup [] found isWritten.ne_nil
      isWritten.named (by simp) nameless, isWritten.reads, String.ofList_toList]
  rw [Element.ofTag, attributesOf, writtenAttributes_of_inside found opens isWritten.ne_nil
    isWritten.named ends, listed, resolved, name]
  exact congrArg (fun attributes => Except.ok (Element.mk element.name attributes))
    (Bindings.ofList_of_distinct distinct)

/-- Attributes give the values that they are written with, if references are resolved. -/
theorem mapM_resolvedAttribute (write : List Char → List Char) (entries : List (String × String))
    (resolves : ∀ entry ∈ entries, resolveReferences (write entry.2.toList) = .ok entry.2.toList) :
    (entries.map fun entry => (entry.1.toList, write entry.2.toList)).mapM resolvedAttribute =
      .ok entries := by
  induction entries with
  | nil => rfl
  | cons entry rest ih =>
      have here : resolvedAttribute (entry.1.toList, write entry.2.toList) = .ok entry := by
        rw [resolvedAttribute, resolves entry List.mem_cons_self]
        simp [Except.map]
      rw [List.map_cons, List.mapM_cons, here,
        ih fun other member => resolves other (List.mem_cons_of_mem _ member)]
      rfl

/-- Markup that begins with a tag which opens an element, and what is left behind that tag. -/
structure Tagged (markup : List Char) (element : Element) (body leftover : List Char) : Prop where
  placed : markup = bracketed body false ++ leftover
  bracketable : Bracketable body
  opening : isClosing (bracketed body false) = false
  read : Element.ofTag (bracketed body false) = .ok element

/-- A text that in brackets is a tag which opens an element. -/
structure Opens (body : List Char) (element : Element) : Prop where
  enclosable : Enclosable body
  opening : ∀ closes, isClosing (bracketed body closes) = false
  read : ∀ closes, Element.ofTag (bracketed body closes) = .ok element

/-- Whether the tag closes what it opens, a slash tells. -/
theorem Opens.tagged {body : List Char} {element : Element} (opens : Opens body element)
    (closes : Bool) : ∃ whole, Tagged (bracketed body closes) element whole [] ∧
      isSelfClosing (bracketed whole false) = closes := by
  obtain ⟨enclosable, opening, read⟩ := opens
  obtain ⟨whole, same, bracketable, _⟩ := enclosable.bracketable closes
  refine ⟨whole, ⟨?_, bracketable, ?_, ?_⟩, ?_⟩
  · rw [same, List.append_nil]
  · rw [← same, opening closes]
  · rw [← same, read closes]
  · rw [← same, isSelfClosing_bracketed enclosable]

/-- A name with attributes opens an element, unless a value holds the bracket that ends a tag. -/
theorem opens_of_quoted {element : Element} {name attributes : List Char}
    {raw : List (List Char × List Char)} (isWritten : NameWritten element.name.toList name)
    (quoted : AttributesQuoted raw attributes)
    (keyed : ∀ entry ∈ raw, ∀ c ∈ entry.1, isKeyChar c = true)
    (unbracketed : ∀ entry ∈ raw, '>' ∉ entry.2)
    (resolved : raw.mapM resolvedAttribute = .ok element.attributes.entries)
    (distinct : (element.attributes.entries.map Prod.fst).Nodup) :
    Opens (name ++ attributes) element := by
  have bracketable : Bracketable (name ++ attributes) :=
    isWritten.bracketable (quoted.not_mem (by decide) keyed unbracketed)
  have unslashed : ∀ c, (name ++ attributes).getLast? = some c → c ≠ '/' := by
    intro c found
    rw [List.getLast?_append] at found
    cases ends : attributes.getLast? with
    | none =>
        rw [ends] at found
        exact isWritten.ne_of_mem (List.mem_of_getLast? found) (by decide)
    | some last =>
        rw [ends] at found
        obtain rfl := Option.some.inj found
        rcases quoted.getLast?_cases last ends with blank | rfl | rfl
        · exact Text.ne_of_class blank (by decide)
        · decide
        · decide
  have enclosable : Enclosable (name ++ attributes) :=
    ⟨bracketable.ne_nil, bracketable.unbracketed, bracketable.first, unslashed⟩
  refine ⟨enclosable, fun closes => isWritten.isClosing_opening attributes, fun closes => ?_⟩
  exact ofTag_of_inside (inside_bracketed enclosable) isWritten
    (isWritten.isClosing_opening attributes) quoted.blank_of_head? (quoted.attributeList_eq keyed)
    resolved distinct

theorem Node.preorderAll_singleton (node : Node) : preorderAll [node] = node.preorder :=
  List.append_nil _

theorem Node.forall_preorderAll_cons {P : Node → Prop} {element : Element} {text : String}
    {children rest : List Node} :
    (∀ node ∈ preorderAll (.mk element text children :: rest), P node) ↔
      P (.mk element text children) ∧ (∀ node ∈ preorderAll children, P node) ∧
        ∀ node ∈ preorderAll rest, P node := by
  rw [preorderAll, preorder, List.cons_append, List.forall_mem_cons, List.forall_mem_append]

/-- How a text may be written between tags. -/
structure TextWritten (text : String) (written : List Char) : Prop where
  unopened : '<' ∉ written
  reads : resolveReferences written = .ok text.toList

/-- Markup of nodes beside each other. -/
inductive LaidOut : List Node → List Char → Prop
  | nil : LaidOut [] []
  | selfClosed {element : Element} {body more : List Char} {rest : List Node}
      (opens : Opens body element) (later : LaidOut rest more) :
      LaidOut (.mk element "" [] :: rest) (bracketed body true ++ more)
  | enclosing {element : Element} {text : String} {body written within closing more : List Char}
      {children rest : List Node} (opens : Opens body element) (worded : TextWritten text written)
      (inner : LaidOut children within) (closes : NameWritten element.name.toList closing)
      (later : LaidOut rest more) :
      LaidOut (.mk element text children :: rest)
        (bracketed body false ++
          (written ++ (within ++ (bracketed ('/' :: closing) false ++ more))))

section Growing

variable {innermost parent : Frame} {outer : List Frame} {element : Element} {text : String}
  {body leftover written closing markup rest : List Char} {closes : Bool} {nodes : List Node}

theorem grow_text (worded : TextWritten text written)
    (follows : ∀ c, rest.head? = some c → c = '<') :
    grow innermost outer (items (written ++ rest)) =
      grow (innermost.write text.toList) outer (items rest) := by
  obtain ⟨unopened, reads⟩ := worded
  cases written with
  | nil =>
      rw [resolveReferences] at reads
      rw [← Except.ok.inj reads]
      simp [Frame.write]
  | cons c more =>
      rw [items_textBefore (List.cons_ne_nil c more) unopened follows, grow, reads]
      rfl

/-- The text of an element is read up to the markup behind it. -/
theorem grow_textInFront (worded : TextWritten text written)
    (follows : ∀ c, rest.head? = some c → c = '<') :
    grow ⟨element, "", []⟩ outer (items (written ++ rest)) =
      grow ⟨element, text, []⟩ outer (items rest) := by
  rw [grow_text worded follows]
  simp [Frame.write]

theorem grow_tagged (tagged : Tagged markup element body leftover) (rest : List Char) :
    grow innermost outer (items (markup ++ rest)) =
      if isSelfClosing (bracketed body false) then
        grow (innermost.adopt (.mk element "" [])) outer (items (leftover ++ rest))
      else grow ⟨element, "", []⟩ (innermost :: outer) (items (leftover ++ rest)) := by
  obtain ⟨rfl, bracketable, opening, read⟩ := tagged
  rw [List.append_assoc, items_bracketable bracketable,
    grow_opening (isDeclaration_bracketable bracketable) opening, Frame.ofTag, read]
  rfl

theorem grow_opens (opens : Opens body element) (rest : List Char) :
    grow innermost outer (items (bracketed body closes ++ rest)) =
      if closes then grow (innermost.adopt (.mk element "" [])) outer (items rest)
      else grow ⟨element, "", []⟩ (innermost :: outer) (items rest) := by
  obtain ⟨whole, tagged, same⟩ := opens.tagged closes
  rw [grow_tagged tagged, same, List.nil_append]

/-- A tag and the text behind it open an element that has the text. -/
theorem grow_opensWithText (opens : Opens body element) (worded : TextWritten text written)
    (follows : ∀ c, rest.head? = some c → c = '<') :
    grow innermost outer (items (bracketed body false ++ (written ++ rest))) =
      grow ⟨element, text, []⟩ (innermost :: outer) (items rest) := by
  rw [grow_opens opens, if_neg Bool.false_ne_true, grow_textInFront worded follows]

theorem grow_closingTag (isWritten : NameWritten innermost.element.name.toList closing)
    (rest : List Char) :
    grow innermost (parent :: outer) (items (bracketed ('/' :: closing) false ++ rest)) =
      grow (parent.adopt innermost.node) outer (items rest) := by
  rw [items_bracketed isWritten.enclosable_closing, grow_closing (isClosing_bracketed _ _)
    (isWritten.tagName_closing.trans String.ofList_toList)]

theorem head?_bracketed (body rest : List Char) :
    ∀ c, (bracketed body closes ++ rest).head? = some c → c = '<' :=
  fun _ found => (Option.some.inj found).symm

/-- Markup begins with a bracket, so that a text in front of it ends there. -/
theorem LaidOut.head?_append (laidOut : LaidOut nodes markup)
    (follows : ∀ c, rest.head? = some c → c = '<') :
    ∀ c, (markup ++ rest).head? = some c → c = '<' := by
  cases laidOut with
  | nil => exact follows
  | selfClosed opens later => exact fun c found => (Option.some.inj found).symm
  | enclosing opens worded inner closes later =>
      exact fun c found => (Option.some.inj found).symm

/-- Markup adds to the innermost open element the nodes that are laid out in it. -/
theorem grow_laidOut (laidOut : LaidOut nodes markup) (innermost : Frame) (outer : List Frame)
    (rest : List Char) :
    grow innermost outer (items (markup ++ rest)) =
      grow { innermost with children := innermost.children ++ nodes } outer (items rest) := by
  induction laidOut generalizing innermost outer rest with
  | nil => simp
  | selfClosed opens later ih =>
      rw [List.append_assoc, grow_opens opens, if_pos rfl, ih]
      simp [Frame.adopt]
  | enclosing opens worded inner closes later ihInner ih =>
      simp only [List.append_assoc]
      rw [grow_opensWithText opens worded (inner.head?_append (head?_bracketed _ _)), ihInner,
        List.nil_append]
      exact (grow_closingTag closes _).trans (by rw [ih]; simp [Frame.adopt, Frame.node])

theorem opensRoot_tagged (tagged : Tagged markup element body leftover)
    (root : element.name = "svg") : opensRoot (bracketed body false) = true := by
  rw [opensRoot, isDeclaration_bracketable tagged.bracketable, tagged.opening,
    tagName_of_ofTag tagged.read, root]
  rfl

/-- What comes of a document is decided by its first tag, if that opens an element named `svg`. -/
theorem treeOfItems_tagged (tagged : Tagged markup element body leftover)
    (root : element.name = "svg") (rest : List Char) :
    treeOfItems (items (markup ++ rest)) =
      (if isSelfClosing (bracketed body false) then .ok (.mk element "" [])
        else grow ⟨element, "", []⟩ [] (items (leftover ++ rest))).mapError .fault := by
  have opens := opensRoot_tagged tagged root
  obtain ⟨rfl, bracketable, opening, read⟩ := tagged
  rw [List.append_assoc, items_bracketable bracketable, treeOfItems, if_pos opens, treeOfRoot,
    Frame.ofTag, read]
  rfl

theorem treeOfItems_opens (opens : Opens body element) (root : element.name = "svg")
    (rest : List Char) :
    treeOfItems (items (bracketed body closes ++ rest)) =
      (if closes then .ok (.mk element "" [])
        else grow ⟨element, "", []⟩ [] (items rest)).mapError .fault := by
  obtain ⟨whole, tagged, same⟩ := opens.tagged closes
  rw [treeOfItems_tagged tagged root, same, List.nil_append]

theorem treeOfItems_opensWithText (opens : Opens body element) (root : element.name = "svg")
    (worded : TextWritten text written) (follows : ∀ c, rest.head? = some c → c = '<') :
    treeOfItems (items (bracketed body false ++ (written ++ rest))) =
      (grow ⟨element, text, []⟩ [] (items rest)).mapError .fault := by
  rw [treeOfItems_opens opens root, if_neg Bool.false_ne_true, grow_textInFront worded follows]

/-- Markup laid out as a tree whose root is named `svg` is read as that tree. -/
theorem treeOfItems_laidOut {tree : Node} (laidOut : LaidOut [tree] markup)
    (root : tree.name = "svg") : treeOfItems (items markup) = .ok tree := by
  cases laidOut with
  | selfClosed opens later =>
      rw [treeOfItems_opens opens root, if_pos rfl]
      rfl
  | enclosing opens worded inner closes later =>
      rw [treeOfItems_opensWithText opens root worded (inner.head?_append (head?_bracketed _ _)),
        grow_laidOut inner, List.nil_append, items_bracketed closes.enclosable_closing,
        grow_closingRoot (isClosing_bracketed _ _)
          (closes.tagName_closing.trans String.ofList_toList)]
      rfl

end Growing

end Vignette.Markup
