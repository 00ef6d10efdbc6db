import Vignette.Proofs.Markup.Escaping
import Vignette.Proofs.Markup.Layout

namespace Vignette.Markup

/-! Elements written with their values as they are, in quotes of a kind that the values do not hold.
Quotes do not keep a tag together: it ends at its first closing bracket, wherever that stands. What
the tag then opens has lost the value with the bracket, and the attributes behind it. -/

/-- An element whose values need no references. -/
structure Element.Quotable (element : Element) : Prop where
  keyed : ∀ entry ∈ element.attributes.entries, ∀ c ∈ entry.1.toList, isKeyChar c = true
  plain : ∀ entry ∈ element.attributes.entries, '&' ∉ entry.2.toList ∧ '<' ∉ entry.2.toList
  distinct : (element.attributes.entries.map Prod.fst).Nodup

instance (element : Element) : Decidable element.Quotable :=
  decidable_of_iff ((∀ entry ∈ element.attributes.entries, entry.1.toList.all isKeyChar = true) ∧
      (∀ entry ∈ element.attributes.entries, '&' ∉ entry.2.toList ∧ '<' ∉ entry.2.toList) ∧
      (element.attributes.entries.map Prod.fst).Nodup)
    ⟨fun ⟨keyed, plain, distinct⟩ =>
        ⟨fun entry member => List.all_eq_true.mp (keyed entry member), plain, distinct⟩,
      fun ⟨keyed, plain, distinct⟩ =>
        ⟨fun entry member => List.all_eq_true.mpr (keyed entry member), plain, distinct⟩⟩

def Element.plainAttributes (element : Element) : List (List Char × List Char) :=
  element.attributes.entries.map fun entry => (entry.1.toList, entry.2.toList)

def Element.Unbracketed (element : Element) : Prop :=
  ∀ entry ∈ element.attributes.entries, '>' ∉ entry.2.toList

instance (element : Element) : Decidable element.Unbracketed :=
  inferInstanceAs (Decidable (∀ entry ∈ element.attributes.entries, '>' ∉ entry.2.toList))

/-- What is left of an element whose tag ends at the first bracket in a value. -/
def Element.clipped (element : Element) : Element where
  name := element.name
  attributes := ⟨element.attributes.entries.takeWhile fun entry => '>' ∉ entry.2.toList⟩

/-- The elements up to the first that is not read as it is, and what is left of that. -/
def untilBracket : List Element → List Element
  | [] => []
  | element :: rest =>
    if element.Unbracketed then element :: untilBracket rest else [element.clipped]

section Clipping

variable {element : Element} {elements : List Element}

theorem clipped_eq_self_iff : element.clipped = element ↔ element.Unbracketed := by
  obtain ⟨name, ⟨entries⟩⟩ := element
  constructor
  · intro same entry member
    have kept : entries.takeWhile (fun entry => decide ('>' ∉ entry.2.toList)) = entries := by
      simpa [Element.clipped] using same
    have all := List.all_eq_true.mp
      (List.all_takeWhile (p := fun entry => decide ('>' ∉ entry.2.toList)) (l := entries))
    rw [kept] at all
    exact of_decide_eq_true (all entry member)
  · intro unbracketed
    have kept : (entries ++ []).takeWhile (fun entry => decide ('>' ∉ entry.2.toList)) =
        entries ++ [] :=
      List.takeWhile_append_of_pos fun entry member => decide_eq_true (unbracketed entry member)
    rw [List.append_nil] at kept
    exact congrArg (fun kept => Element.mk name ⟨kept⟩) kept

theorem untilBracket_of_unbracketed (unbracketed : element.Unbracketed) :
    untilBracket (element :: elements) = element :: untilBracket elements := if_pos unbracketed

theorem untilBracket_of_bracketed (bracketed : ¬ element.Unbracketed) :
    untilBracket (element :: elements) = [element.clipped] := if_neg bracketed

theorem untilBracket_singleton (element : Element) :
    untilBracket [element] = [element.clipped] := by
  by_cases here : element.Unbracketed
  · rw [untilBracket_of_unbracketed here, clipped_eq_self_iff.mpr here]
    rfl
  · exact untilBracket_of_bracketed here

theorem untilBracket_append (front back : List Element) :
    untilBracket (front ++ back) =
      if ∀ element ∈ front, element.Unbracketed then front ++ untilBracket back
      else untilBracket front := by
  induction front with
  | nil => simp
  | cons element rest ih =>
      by_cases here : element.Unbracketed
      · rw [List.cons_append, untilBracket_of_unbracketed here, untilBracket_of_unbracketed here,
          ih]
        simp only [List.forall_mem_cons, here, true_and]
        split <;> rfl
      · rw [List.cons_append, untilBracket_of_bracketed here, untilBracket_of_bracketed here,
          if_neg fun all => here (all element List.mem_cons_self)]

/-- Elements are not read as they are if any of them holds a bracket. -/
theorem unbracketed_of_begins (begins : untilBracket elements <+: elements) :
    ∀ element ∈ elements, element.Unbracketed := by
  induction elements with
  | nil => simp
  | cons element rest ih =>
      by_cases here : element.Unbracketed
      · rw [untilBracket_of_unbracketed here, List.prefix_cons_inj] at begins
        exact List.forall_mem_cons.mpr ⟨here, ih begins⟩
      · rw [untilBracket_of_bracketed here] at begins
        exact absurd (clipped_eq_self_iff.mp (List.cons_prefix_cons.mp begins).1) here

end Clipping

/-- Attributes that fall apart at the first bracket in a value: what stands up to the quotes around
that value, what the value begins with, and what follows the bracket. -/
structure Broken (written : List (List Char × List Char)) (markup front started behind : List Char)
    (quote : Char) : Prop where
  placed : markup = front ++ quote :: (started ++ '>' :: behind)
  isQuote : IsQuote quote
  unbracketed : '>' ∉ front ++ quote :: started
  listed : attributeList (.name []) (front ++ quote :: dropBack '/' started) =
    written.takeWhile fun entry => '>' ∉ entry.2

theorem mem_of_mem_dropBack {mark c : Char} {text : List Char} (member : c ∈ dropBack mark text) :
    c ∈ text := by
  rw [dropBack, List.mem_reverse] at member
  exact List.mem_reverse.mp ((List.dropWhile_sublist _).mem member)

theorem not_mem_append_cons {mark quote : Char} {front back : List Char} (before : mark ∉ front)
    (unlike : mark ≠ quote) (behind : mark ∉ back) : mark ∉ front ++ quote :: back := by
  simp [before, unlike, behind]

section Tags

variable {element : Element} {raw : List (List Char × List Char)}
  {name attributes markup body leftover : List Char}

theorem AttributesQuoted.broken (quoted : AttributesQuoted raw markup)
    (keyed : ∀ entry ∈ raw, ∀ c ∈ entry.1, isKeyChar c = true)
    (bracket : ∃ entry ∈ raw, '>' ∈ entry.2) :
    ∃ front started behind quote, Broken raw markup front started behind quote := by
  induction quoted with
  | nil => simp at bracket
  | @cons gap key value markup quote rest apart blank isQuote unquoted later ih =>
      have own := keyed _ List.mem_cons_self
      have others := fun entry member => keyed entry (List.mem_cons_of_mem _ member)
      have opening : '>' ∉ gap ++ (key ++ ['=']) := by
        simp only [List.mem_append, List.mem_singleton, not_or]
        exact ⟨fun member => Text.ne_of_class (blank _ member) (by decide) rfl,
          fun member => Text.ne_of_class (own _ member) (by decide) rfl, by decide⟩
      have unlike : '>' ≠ quote := by rcases isQuote with rfl | rfl <;> decide
      -- The first value with a bracket is the one in which the tag ends.
      by_cases here : '>' ∈ value
      · obtain ⟨started, ended, rfl, first⟩ := List.eq_append_cons_of_mem here
        have unclosed : quote ∉ dropBack '/' started := fun member =>
          unquoted (List.mem_append_left _ (mem_of_mem_dropBack member))
        refine ⟨gap ++ (key ++ ['=']), started, ended ++ quote :: markup, quote, ?_, isQuote, ?_,
          ?_⟩
        · simp
        · exact not_mem_append_cons opening unlike first
        · have placed : gap ++ (key ++ ['=']) ++ quote :: dropBack '/' started =
              gap ++ (key ++ '=' :: quote :: dropBack '/' started) := by simp
          rw [placed, attributeList_opened blank own isQuote, attributeList_unclosed unclosed]
          simp
      · have within : ∃ entry ∈ rest, '>' ∈ entry.2 := by simpa [here] using bracket
        obtain ⟨front, started, behind, inner, placed, isInner, unbracketed, listed⟩ :=
          ih others within
        have whole (back : List Char) :
            gap ++ (key ++ '=' :: quote :: (value ++ quote :: front)) ++ inner :: back =
              gap ++ (key ++ '=' :: quote :: (value ++ quote :: (front ++ inner :: back))) := by
          simp
        refine ⟨gap ++ (key ++ '=' :: quote :: (value ++ quote :: front)), started, behind, inner,
          ?_, isInner, ?_, ?_⟩
        · rw [whole, placed]
        · rw [whole, List.append_cons key, ← List.append_assoc]
          exact not_mem_append_cons opening unlike (not_mem_append_cons here unlike unbracketed)
        · rw [whole, attributeList_opened blank own isQuote, attributeList_value unquoted, listed]
          simp [here]

namespace Element.Quotable

theorem plainAttributes_keyed (quotable : element.Quotable) :
    ∀ entry ∈ element.plainAttributes, ∀ c ∈ entry.1, isKeyChar c = true := by
  intro raw member
  obtain ⟨entry, among, rfl⟩ := List.mem_map.mp member
  exact quotable.keyed entry among

theorem plainAttributes_plain (quotable : element.Quotable) :
    ∀ entry ∈ element.plainAttributes, '&' ∉ entry.2 ∧ '<' ∉ entry.2 := by
  intro raw member
  obtain ⟨entry, among, rfl⟩ := List.mem_map.mp member
  exact quotable.plain entry among

theorem clipped (quotable : element.Quotable) : element.clipped.Quotable := by
  have kept := List.takeWhile_prefix (l := element.attributes.entries)
    fun entry => decide ('>' ∉ entry.2.toList)
  exact ⟨fun entry member => quotable.keyed entry (kept.subset member),
    fun entry member => quotable.plain entry (kept.subset member),
    quotable.distinct.sublist (kept.map Prod.fst).sublist⟩

theorem resolved (quotable : element.Quotable) :
    element.plainAttributes.mapM resolvedAttribute = .ok element.attributes.entries :=
  mapM_resolvedAttribute id _ fun entry member =>
    resolveReferences_plain (quotable.plain entry member).1

end Element.Quotable

theorem plainAttributes_clipped :
    element.plainAttributes.takeWhile (fun entry => '>' ∉ entry.2) =
      element.clipped.plainAttributes := by
  rw [Element.plainAttributes, List.takeWhile_map]
  rfl

theorem Element.Quotable.opens (quotable : element.Quotable)
    (isWritten : NameWritten element.name.toList name)
    (given : AttributesQuoted element.plainAttributes attributes)
    (unbracketed : element.Unbracketed) : Opens (name ++ attributes) element := by
  refine opens_of_quoted isWritten given quotable.plainAttributes_keyed ?_ quotable.resolved
    quotable.distinct
  intro raw member
  obtain ⟨entry, among, rfl⟩ := List.mem_map.mp member
  exact unbracketed entry among

theorem Broken.tagged {front started behind : List Char} {quote : Char} (closes : Bool)
    (broken : Broken element.plainAttributes attributes front started behind quote)
    (quotable : element.Quotable) (isWritten : NameWritten element.name.toList name)
    (given : AttributesQuoted element.plainAttributes attributes) :
    Tagged (bracketed (name ++ attributes) closes) element.clipped
      (name ++ (front ++ quote :: started))
      (behind ++ if closes then "/>".toList else ">".toList) := by
  obtain ⟨placed, isQuote, unbracketed, listed⟩ := broken
  have opening : isClosing (bracketed (name ++ (front ++ quote :: started)) false) = false :=
    isWritten.isClosing_opening _
  have unslashed : quote ≠ '/' := by rcases isQuote with rfl | rfl <;> decide
  have bracketable : Bracketable (name ++ (front ++ quote :: started)) :=
    isWritten.bracketable unbracketed
  have found : inside (bracketed (name ++ (front ++ quote :: started)) false) =
      name ++ (front ++ quote :: dropBack '/' started) := by
    rw [inside_bracketable bracketable, ← List.append_assoc, dropBack_append_cons unslashed,
      List.append_assoc]
  have blank : ∀ c, (front ++ quote :: dropBack '/' started).head? = some c →
      Text.isBlank c = true := by
    intro c head
    refine given.blank_of_head? c ?_
    rw [placed, ← head]
    cases front <;> rfl
  refine ⟨by simp [bracketed, placed], bracketable, opening, ?_⟩
  rw [plainAttributes_clipped] at listed
  exact ofTag_of_inside found isWritten opening blank listed quotable.clipped.resolved
    quotable.clipped.distinct

/-- Neither a bracket that opens nor an ampersand is left behind a tag. -/
theorem Broken.not_mem_leftover {front started behind : List Char} {quote mark : Char}
    (broken : Broken element.plainAttributes attributes front started behind quote)
    (quotable : element.Quotable)
    (given : AttributesQuoted element.plainAttributes attributes) (meaning : mark ∈ ['<', '&'])
    (closes : Bool) : mark ∉ behind ++ if closes then "/>".toList else ">".toList := by
  have marks : ∀ mark ∈ ['<', '&'], mark ∈ ['<', '>', '&'] ∧ mark ∉ "/>".toList := by
    simp only [List.forall_mem_cons, List.not_mem_nil, false_implies, implies_true]
    decide
  obtain ⟨among, unslashed⟩ := marks mark meaning
  have absent : mark ∉ attributes := by
    refine given.not_mem among quotable.plainAttributes_keyed fun entry member => ?_
    obtain ⟨ampersand, bracket⟩ := quotable.plainAttributes_plain entry member
    simp only [List.mem_cons, List.not_mem_nil, or_false] at meaning
    rcases meaning with rfl | rfl
    · exact bracket
    · exact ampersand
  rw [List.mem_append, not_or]
  refine ⟨fun member => absent (by simp [broken.placed, member]), ?_⟩
  cases closes with
  | true => exact unslashed
  | false => exact fun member => unslashed (List.mem_cons_of_mem _ member)

theorem Element.Quotable.exists_tagged (quotable : element.Quotable)
    (isWritten : NameWritten element.name.toList name)
    (given : AttributesQuoted element.plainAttributes attributes) (closes : Bool) :
    ∃ body leftover,
      Tagged (bracketed (name ++ attributes) closes) element.clipped body leftover ∧
        '<' ∉ leftover ∧ '&' ∉ leftover := by
  by_cases unbracketed : element.Unbracketed
  · obtain ⟨whole, tagged, _⟩ := (quotable.opens isWritten given unbracketed).tagged closes
    rw [clipped_eq_self_iff.mpr unbracketed]
    exact ⟨whole, [], tagged, List.not_mem_nil, List.not_mem_nil⟩
  · obtain ⟨entry, member, bracket⟩ :
        ∃ entry ∈ element.attributes.entries, '>' ∈ entry.2.toList := by
      simpa [Element.Unbracketed] using unbracketed
    obtain ⟨front, started, behind, quote, broken⟩ :=
      given.broken quotable.plainAttributes_keyed ⟨_, List.mem_map_of_mem member, bracket⟩
    exact ⟨_, _, broken.tagged closes quotable isWritten given,
      broken.not_mem_leftover quotable given (by decide) closes,
      broken.not_mem_leftover quotable given (by decide) closes⟩

end Tags

end Vignette.Markup
