import Vignette.Markup.Node
import Vignette.Proofs.Text.Classes
import Vignette.Proofs.Text.Cutting

namespace Vignette.Markup

/-! Tags as they are written, and what is read from them: that they are one item, whether they open
or close an element, its name and its attributes. -/

open Text (isBlank isWord)

theorem dropBack_snoc (c : Char) (text : List Char) :
    dropBack c (text ++ [c]) = dropBack c text := by
  simp [dropBack]

theorem dropBack_of_getLast? {c : Char} {text : List Char}
    (other : ∀ last, text.getLast? = some last → last ≠ c) : dropBack c text = text := by
  rcases List.eq_nil_or_concat text with rfl | ⟨front, last, rfl⟩
  · rfl
  · rw [List.concat_eq_append] at other ⊢
    simp [dropBack, other last (by simp)]

theorem dropBack_append_cons {c other : Char} (different : other ≠ c) (front back : List Char) :
    dropBack c (front ++ other :: back) = front ++ other :: dropBack c back := by
  have solid : ∀ text : List Char,
      (text ++ other :: front.reverse).dropWhile (· == c) =
        text.dropWhile (· == c) ++ other :: front.reverse := by
    intro text
    induction text with
    | nil => simp [different]
    | cons d rest ih =>
        rw [List.cons_append, List.dropWhile_cons, List.dropWhile_cons, ih]
        split <;> rfl
  rw [dropBack, List.reverse_append, List.reverse_cons, List.append_assoc, List.singleton_append,
    solid, dropBack]
  simp

/-- A text that is one tag when it stands in brackets. -/
structure Bracketable (body : List Char) : Prop where
  ne_nil : body ≠ []
  unbracketed : '>' ∉ body
  first : ∀ c, body.head? = some c → c ≠ '<' ∧ c ≠ '!' ∧ c ≠ '?'

/-- A text that can be told from a slash behind it, too. -/
structure Enclosable (body : List Char) : Prop where
  ne_nil : body ≠ []
  unbracketed : '>' ∉ body
  first : ∀ c, body.head? = some c → c ≠ '<' ∧ c ≠ '!' ∧ c ≠ '?'
  last : ∀ c, body.getLast? = some c → c ≠ '/'

/-- A text in brackets, with a slash in front of the last one if the tag closes what it opens. -/
def bracketed (body : List Char) (closes : Bool) : List Char :=
  '<' :: body ++ if closes then "/>".toList else ">".toList

section Bracketed

variable {body : List Char} {closes : Bool}

theorem bracketed_snoc (body : List Char) (closes : Bool) :
    ∃ middle, bracketed body closes = '<' :: middle ++ ['>'] := by
  cases closes with
  | false => exact ⟨body, rfl⟩
  | true => exact ⟨body ++ ['/'], by simp [bracketed]⟩

theorem trim_bracketed : Text.trim (bracketed body closes) = bracketed body closes := by
  obtain ⟨middle, whole⟩ := bracketed_snoc body closes
  rw [whole]
  exact Text.trim_of_solid_ends middle (by decide) (by decide)

theorem Enclosable.bracketable (enclosable : Enclosable body) (closes : Bool) :
    ∃ whole, bracketed body closes = bracketed whole false ∧ Bracketable whole ∧
      dropBack '/' whole = body := by
  obtain ⟨ne_nil, unbracketed, first, last⟩ := enclosable
  have unslashed : dropBack '/' body = body := dropBack_of_getLast? last
  cases closes with
  | false => exact ⟨body, rfl, ⟨ne_nil, unbracketed, first⟩, unslashed⟩
  | true =>
      refine ⟨body ++ ['/'], by simp [bracketed], ⟨by simp, by simp [unbracketed], ?_⟩, ?_⟩
      · obtain ⟨c, rest, rfl⟩ := List.exists_cons_of_ne_nil ne_nil
        exact first
      · rw [dropBack_snoc, unslashed]

theorem inside_bracketable (bracketable : Bracketable body) :
    inside (bracketed body false) = dropBack '/' body := by
  obtain ⟨ne_nil, unbracketed, first⟩ := bracketable
  have front : dropFront '<' (bracketed body false) = body ++ ['>'] := by
    obtain ⟨c, rest, rfl⟩ := List.exists_cons_of_ne_nil ne_nil
    simp [bracketed, dropFront, (first c rfl).1]
  have open_ : dropBack '>' body = body := dropBack_of_getLast? fun c found same =>
    unbracketed (same ▸ List.mem_of_getLast? found)
  rw [inside, trim_bracketed, front, dropBack_snoc, open_]

theorem inside_bracketed (enclosable : Enclosable body) :
    inside (bracketed body closes) = body := by
  obtain ⟨whole, same, bracketable, cut⟩ := enclosable.bracketable closes
  rw [same, inside_bracketable bracketable, cut]

theorem isDeclaration_bracketable (bracketable : Bracketable body) :
    isDeclaration (bracketed body false) = false := by
  obtain ⟨c, rest, rfl⟩ := List.exists_cons_of_ne_nil bracketable.ne_nil
  obtain ⟨_, exclamation, question⟩ := bracketable.first c rfl
  rw [isDeclaration, trim_bracketed]
  simp [bracketed, List.isPrefixOf, exclamation.symm, question.symm]

theorem isClosing_bracketed (c : Char) (rest : List Char) :
    isClosing (bracketed (c :: rest) closes) = (c == '/') := by
  rw [isClosing, trim_bracketed]
  simp [bracketed, List.isPrefixOf, Bool.beq_comm]

theorem isSelfClosing_bracketed (enclosable : Enclosable body) :
    isSelfClosing (bracketed body closes) = closes := by
  have whole : Text.trimRight (bracketed body closes) = bracketed body closes := by
    obtain ⟨middle, written⟩ := bracketed_snoc body closes
    rw [written]
    exact Text.trimRight_snoc _ (by decide)
  rw [isSelfClosing, whole]
  cases closes with
  | true => exact List.isSuffixOf_iff_suffix.mpr ⟨'<' :: body, rfl⟩
  | false =>
      apply Bool.eq_false_iff.mpr
      intro slashed
      obtain ⟨front, same⟩ := List.isSuffixOf_iff_suffix.mp slashed
      change front ++ ['/', '>'] = '<' :: body ++ ['>'] at same
      rw [List.append_cons] at same
      have open_ : front ++ ['/'] = '<' :: body := List.append_cancel_right same
      obtain ⟨c, rest, rfl⟩ := List.exists_cons_of_ne_nil enclosable.ne_nil
      have ends := congrArg List.getLast? open_
      rw [List.getLast?_concat, List.getLast?_cons_cons] at ends
      exact enclosable.last '/' ends.symm rfl

theorem enclosed?_eq_none {opening closing : String} {first c : Char} {more rest : List Char}
    (begins : opening.toList = first :: more) (other : first ≠ c) :
    enclosed? opening closing (c :: rest) = none := by
  simp [enclosed?, behindPhrase?, begins, List.isPrefixOf, other]

/-- A text is one item up to a bracket or the end. -/
theorem items_textBefore {text rest : List Char} (nonempty : text ≠ []) (unopened : '<' ∉ text)
    (follows : ∀ c, rest.head? = some c → c = '<') :
    items (text ++ rest) = .text text :: items rest := by
  obtain ⟨c, more, rfl⟩ := List.exists_cons_of_ne_nil nonempty
  rw [List.mem_cons, not_or] at unopened
  have solid : ∀ d ∈ more, (d != '<') = true := fun d member =>
    bne_iff_ne.mpr fun same => unopened.2 (same ▸ member)
  have stops : ∀ d, rest.head? = some d → (d != '<') = false := fun d found => by
    simp [follows d found]
  rw [List.cons_append, items, if_neg (Ne.symm unopened.1), Text.takeWhile_front solid stops,
    Text.dropWhile_front solid stops]

theorem items_text {text : List Char} (nonempty : text ≠ []) (unopened : '<' ∉ text)
    (rest : List Char) : items (text ++ '<' :: rest) = .text text :: items ('<' :: rest) :=
  items_textBefore nonempty unopened (by simp)

theorem items_bracketable (bracketable : Bracketable body) (rest : List Char) :
    items (bracketed body false ++ rest) = .tag (bracketed body false) :: items rest := by
  have cut := Text.cutAtFirst_append rest bracketable.unbracketed
  obtain ⟨c, more, rfl⟩ := List.exists_cons_of_ne_nil bracketable.ne_nil
  obtain ⟨_, exclamation, _⟩ := bracketable.first c rfl
  have read : opening (c :: more ++ '>' :: rest) =
      .item (.tag (bracketed (c :: more) false)) rest := by
    rw [opening, cut, List.cons_append, enclosed?_eq_none rfl exclamation.symm,
      enclosed?_eq_none rfl exclamation.symm]
    rfl
  have whole : bracketed (c :: more) false ++ rest = '<' :: (c :: more ++ '>' :: rest) := by
    simp [bracketed]
  rw [whole, items, if_pos rfl, read]
  rfl

theorem items_bracketed (enclosable : Enclosable body) (rest : List Char) :
    items (bracketed body closes ++ rest) = .tag (bracketed body closes) :: items rest := by
  obtain ⟨whole, same, bracketable, _⟩ := enclosable.bracketable closes
  rw [same, items_bracketable bracketable]

end Bracketed

theorem isBlank_of_isNameChar {c : Char} (named : isNameChar c = true) : isBlank c = false := by
  simp only [isNameChar, Bool.or_eq_true, beq_iff_eq] at named
  rcases named with ((word | rfl) | rfl) | rfl
  · exact Text.isBlank_of_isWord word
  all_goals decide

/-- A name, without qualifier and in lower case. -/
structure IsLocalName (name : List Char) : Prop where
  ne_nil : name ≠ []
  named : ∀ c ∈ name, isNameChar c = true
  unqualified : ':' ∉ name
  lowered : Text.lowerChars name = name

theorem localName_of_unqualified {name : List Char} (unqualified : ':' ∉ name) :
    localName name = name := by
  have all : ∀ c ∈ name.reverse, (c != ':') = true := fun c member =>
    bne_iff_ne.mpr fun same => unqualified (same ▸ List.mem_reverse.mp member)
  have whole : (name.reverse ++ []).takeWhile (· != ':') = name.reverse ++ [] := by
    rw [List.takeWhile_append_of_pos all]
    rfl
  rw [List.append_nil] at whole
  rw [localName, whole, List.reverse_reverse]

section Names

variable {tag name behind : List Char}

/-- Behind the slashes of a closing tag, or at once, comes the name. -/
theorem tagNameChars_of_inside {slashes : List Char}
    (found : inside tag = slashes ++ (name ++ behind)) (ne_nil : name ≠ [])
    (named : ∀ c ∈ name, isNameChar c = true) (marks : ∀ c ∈ slashes, c = '/')
    (ends : ∀ c, behind.head? = some c → isNameChar c = false) :
    tagNameChars tag = Text.lowerChars (localName name) := by
  obtain ⟨first, more, rfl⟩ := List.exists_cons_of_ne_nil ne_nil
  have firstNamed := named first List.mem_cons_self
  have solid := isBlank_of_isNameChar firstNamed
  have unmarked : first ≠ '/' ∧ first ≠ '!' ∧ first ≠ '?' := by
    refine ⟨?_, ?_, ?_⟩
    all_goals exact Text.ne_of_class firstNamed (by decide)
  have untrimmed (slashes : List Char) (marks : ∀ c ∈ slashes, c = '/') :
      Text.trimLeft (slashes ++ (first :: more ++ behind)) =
        slashes ++ (first :: more ++ behind) := by
    cases slashes with
    | nil => exact Text.trimLeft_of_not_blank solid
    | cons c rest =>
        rw [marks c List.mem_cons_self]
        exact Text.trimLeft_of_not_blank (by decide)
  rw [tagNameChars, found, untrimmed slashes marks,
    List.dropWhile_append_of_pos fun c member => by simp [marks c member]]
  rw [List.cons_append, List.dropWhile_cons_of_neg (by simp [unmarked]), ← List.cons_append,
    ← List.nil_append (first :: more ++ behind), untrimmed [] (by simp), List.nil_append,
    Text.takeWhile_front named ends]

end Names

/-- Whether a character can stand in the name of an attribute: it is no blank and has no meaning
in markup. -/
def isKeyChar (c : Char) : Bool := !isBlank c && !(['=', '<', '>', '&'].contains c)

theorem isKeyChar_of_isNameChar {c : Char} (named : isNameChar c = true) : isKeyChar c = true := by
  have unmeaning : c ∉ ['=', '<', '>', '&'] := by
    intro member
    have unnamed : ∀ mark ∈ ['=', '<', '>', '&'], isNameChar mark = false := by
      simp only [List.forall_mem_cons, List.not_mem_nil, false_implies, implies_true]
      decide
    exact Text.ne_of_class named (unnamed c member) rfl
  simpa [isKeyChar, isBlank_of_isNameChar named] using unmeaning

/-- How attributes are written: each behind one or more blanks, the value in quotes. Blanks may
follow the last one. -/
inductive AttributesWritten : List (List Char × List Char) → List Char → Prop
  | nil {gap : List Char} (blank : ∀ c ∈ gap, isBlank c = true) : AttributesWritten [] gap
  | cons {gap key value markup : List Char} {rest : List (List Char × List Char)} (apart : gap ≠ [])
      (blank : ∀ c ∈ gap, isBlank c = true) (later : AttributesWritten rest markup) :
      AttributesWritten ((key, value) :: rest)
        (gap ++ (key ++ '=' :: '"' :: (value ++ '"' :: markup)))

def IsQuote (c : Char) : Prop := c = '"' ∨ c = '\''

/-- How attributes are written with quotes of either kind, so that no value holds those it stands
in. -/
inductive AttributesQuoted : List (List Char × List Char) → List Char → Prop
  | nil {gap : List Char} (blank : ∀ c ∈ gap, isBlank c = true) : AttributesQuoted [] gap
  | cons {gap key value markup : List Char} {quote : Char} {rest : List (List Char × List Char)}
      (apart : gap ≠ []) (blank : ∀ c ∈ gap, isBlank c = true) (isQuote : IsQuote quote)
      (unquoted : quote ∉ value) (later : AttributesQuoted rest markup) :
      AttributesQuoted ((key, value) :: rest)
        (gap ++ (key ++ '=' :: quote :: (value ++ quote :: markup)))

theorem AttributesWritten.quoted {written : List (List Char × List Char)} {markup : List Char}
    (isWritten : AttributesWritten written markup) (unquoted : ∀ entry ∈ written, '"' ∉ entry.2) :
    AttributesQuoted written markup := by
  induction isWritten with
  | nil blank => exact .nil blank
  | cons apart blank later ih =>
      exact .cons apart blank (.inl rfl) (unquoted _ List.mem_cons_self)
        (ih fun entry member => unquoted entry (List.mem_cons_of_mem _ member))

section Attributes

variable {gap key value rest reversed : List Char}

theorem attributeList_gap (blank : ∀ c ∈ gap, isBlank c = true) :
    attributeList (.name reversed) (gap ++ rest) = attributeList (.name reversed) rest := by
  induction gap with
  | nil => rfl
  | cons c more ih =>
      have here := blank c List.mem_cons_self
      rw [List.cons_append, attributeList, if_neg (Text.ne_of_class here (by decide)), if_pos here,
        ih fun d member => blank d (List.mem_cons_of_mem c member)]

theorem attributeList_key (keyed : ∀ c ∈ key, isKeyChar c = true) :
    attributeList (.name reversed) (key ++ '=' :: rest) =
      attributeList (.beforeValue (reversed.reverse ++ key)) rest := by
  induction key generalizing reversed with
  | nil => rw [List.nil_append, attributeList, if_pos rfl, List.append_nil]
  | cons c more ih =>
      have here := keyed c List.mem_cons_self
      have solid : isBlank c = false := by
        rw [isKeyChar, Bool.and_eq_true, Bool.not_eq_true'] at here
        exact here.1
      rw [List.cons_append, attributeList, if_neg (Text.ne_of_class here (by decide)),
        if_neg (by simp [solid]), ih fun d member => keyed d (List.mem_cons_of_mem c member)]
      simp

theorem attributeList_value {quote : Char} (unquoted : quote ∉ value) :
    attributeList (.value key quote reversed) (value ++ quote :: rest) =
      (key, reversed.reverse ++ value) :: attributeList (.name []) rest := by
  induction value generalizing reversed with
  | nil => rw [List.nil_append, attributeList, if_pos rfl, List.append_nil]
  | cons c more ih =>
      rw [List.mem_cons, not_or] at unquoted
      rw [List.cons_append, attributeList, if_neg (Ne.symm unquoted.1), ih unquoted.2]
      simp

/-- A value that is never closed is no value. -/
theorem attributeList_unclosed {quote : Char} (unquoted : quote ∉ value) :
    attributeList (.value key quote reversed) value = [] := by
  induction value generalizing reversed with
  | nil => rfl
  | cons c more ih =>
      rw [List.mem_cons, not_or] at unquoted
      rw [attributeList, if_neg (Ne.symm unquoted.1), ih unquoted.2]

/-- Up to the quote in front of its value an attribute is read as its name. -/
theorem attributeList_opened {quote : Char} (blank : ∀ c ∈ gap, isBlank c = true)
    (keyed : ∀ c ∈ key, isKeyChar c = true) (isQuote : IsQuote quote) :
    attributeList (.name []) (gap ++ (key ++ '=' :: quote :: rest)) =
      attributeList (.value key quote []) rest := by
  have opens : quote = '"' ∨ quote = '\'' := isQuote
  rw [attributeList_gap blank, attributeList_key keyed, attributeList, if_pos opens]
  rfl

end Attributes

namespace AttributesQuoted

variable {written : List (List Char × List Char)} {markup : List Char}

theorem attributeList_eq (quoted : AttributesQuoted written markup)
    (keyed : ∀ entry ∈ written, ∀ c ∈ entry.1, isKeyChar c = true) :
    attributeList (.name []) markup = written := by
  induction quoted with
  | @nil gap blank =>
      rw [← List.append_nil gap, attributeList_gap blank]
      rfl
  | cons apart blank isQuote unquoted later ih =>
      rw [attributeList_opened blank (keyed _ List.mem_cons_self) isQuote,
        attributeList_value unquoted,
        ih fun entry member => keyed entry (List.mem_cons_of_mem _ member)]
      rfl

theorem blank_of_head? (quoted : AttributesQuoted written markup) :
    ∀ c, markup.head? = some c → isBlank c = true := by
  intro c found
  cases quoted with
  | nil blank => exact blank c (List.mem_of_head? found)
  | cons apart blank isQuote unquoted later =>
      obtain ⟨first, more, rfl⟩ := List.exists_cons_of_ne_nil apart
      obtain rfl := Option.some.inj found
      exact blank first List.mem_cons_self

/-- A bracket or an ampersand stands in attributes only if it stands in a value. -/
theorem not_mem {mark : Char} (meaning : mark ∈ ['<', '>', '&'])
    (quoted : AttributesQuoted written markup)
    (keyed : ∀ entry ∈ written, ∀ c ∈ entry.1, isKeyChar c = true)
    (absent : ∀ entry ∈ written, mark ∉ entry.2) : mark ∉ markup := by
  have marks : ∀ mark ∈ ['<', '>', '&'], isBlank mark = false ∧ isKeyChar mark = false ∧
      mark ≠ '=' ∧ mark ≠ '"' ∧ mark ≠ '\'' := by
    simp only [List.forall_mem_cons, List.not_mem_nil, false_implies, implies_true]
    decide
  obtain ⟨solid, unkeyed, equals, double, single⟩ := marks mark meaning
  have gapless {gap : List Char} (blank : ∀ c ∈ gap, isBlank c = true) : mark ∉ gap :=
    fun member => Text.ne_of_class (blank mark member) solid rfl
  induction quoted with
  | nil blank => exact gapless blank
  | @cons gap key value markup quote rest apart blank isQuote unquoted later ih =>
      have keyless : mark ∉ key := fun member =>
        Text.ne_of_class (keyed _ List.mem_cons_self mark member) unkeyed rfl
      have quoteless : mark ≠ quote := by
        rcases isQuote with rfl | rfl
        · exact double
        · exact single
      have valueless := absent _ List.mem_cons_self
      have restless := ih (fun entry member => keyed entry (List.mem_cons_of_mem _ member))
        fun entry member => absent entry (List.mem_cons_of_mem _ member)
      simp [gapless blank, keyless, valueless, restless, equals, quoteless]

theorem getLast?_cases (quoted : AttributesQuoted written markup) :
    ∀ c, markup.getLast? = some c → isBlank c = true ∨ IsQuote c := by
  induction quoted with
  | nil blank => exact fun c found => .inl (blank c (List.mem_of_getLast? found))
  | @cons gap key value markup quote rest apart blank isQuote unquoted later ih =>
      intro c found
      have whole : gap ++ (key ++ '=' :: quote :: (value ++ quote :: markup)) =
          gap ++ key ++ '=' :: quote :: value ++ [quote] ++ markup := by simp
      rw [whole, List.getLast?_append, List.getLast?_concat] at found
      cases ends : markup.getLast? with
      | none =>
          rw [ends] at found
          exact .inr (Option.some.inj found ▸ isQuote)
      | some last =>
          rw [ends] at found
          obtain rfl := Option.some.inj found
          exact ih last ends

end AttributesQuoted

theorem attributeList_trimLeft (text : List Char) :
    attributeList (.name []) (Text.trimLeft text) = attributeList (.name []) text := by
  induction text with
  | nil => rfl
  | cons c rest ih =>
      cases solid : isBlank c with
      | false => rw [Text.trimLeft_of_not_blank solid]
      | true =>
          rw [Text.trimLeft_of_blank solid, ih, attributeList,
            if_neg (Text.ne_of_class solid (by decide)), if_pos solid]

theorem writtenAttributes_of_inside {tag name markup : List Char}
    (found : inside tag = name ++ markup) (opens : isClosing tag = false) (ne_nil : name ≠ [])
    (named : ∀ c ∈ name, isNameChar c = true)
    (ends : ∀ c, markup.head? = some c → isBlank c = true) :
    writtenAttributes tag = attributeList (.name []) markup := by
  obtain ⟨first, more, rfl⟩ := List.exists_cons_of_ne_nil ne_nil
  have solid (c : Char) (member : c ∈ first :: more) : isBlank c = false :=
    isBlank_of_isNameChar (named c member)
  rw [writtenAttributes, opens, if_neg Bool.false_ne_true]
  dsimp only
  rw [found, List.cons_append, Text.trimLeft_of_not_blank (solid first List.mem_cons_self),
    ← List.cons_append, Text.dropWhile_front (fun c member => by simp [solid c member])
      fun c head => by simp [ends c head], attributeList_trimLeft]

end Vignette.Markup
