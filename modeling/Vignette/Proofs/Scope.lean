import Mathlib.Data.List.Induction
import Vignette.Proofs.Style.Cascade

namespace Vignette

/-! What is in force at the end of a chain of attributes, each inside those before it. Scopes are
made by laying attributes over each other, the outermost first. Asked the other way around, the
innermost attributes with a value for a name decide, and among them the last spelling of the name
that has one. -/

section Last

variable {β γ : Type} {f : β → Option γ}

theorem findSome?_reverse_eq_some_iff {list : List β} {value : γ} :
    list.reverse.findSome? f = some value ↔
      ∃ front found back, list = front ++ found :: back ∧ f found = some value ∧
        ∀ other ∈ back, f other = none := by
  rw [List.findSome?_eq_some_iff]
  constructor
  · rintro ⟨back, found, front, whole, hit, missed⟩
    refine ⟨front.reverse, found, back.reverse, ?_, hit, by simpa using missed⟩
    rw [← List.reverse_reverse list, whole]
    simp
  · rintro ⟨front, found, back, rfl, hit, missed⟩
    exact ⟨back.reverse, found, front.reverse, by simp, hit, by simpa using missed⟩

theorem lastValue?_filterMap (pair : β → Option (String × γ)) (name : String) (list : List β) :
    Bindings.lastValue? name (list.filterMap pair) =
      list.reverse.findSome? fun one =>
        (pair one).bind fun entry => if entry.1 = name then some entry.2 else none := by
  induction list with
  | nil => rfl
  | cons one rest ih =>
      rw [List.reverse_cons, List.findSome?_append, List.findSome?_singleton, ← ih]
      cases here : pair one with
      | none => rw [List.filterMap_cons_none here, Option.bind_none, Option.or_none]
      | some entry =>
          rw [List.filterMap_cons_some here, Bindings.lastValue?_cons, Option.bind_some]

end Last

namespace Attributes

/-- Attributes as they are given: under names that all differ, and some of them without a value. -/
structure Given where
  entries : List (String × Option String)
  distinct : (entries.map Prod.fst).Nodup

/-- The value of an attribute, unless there is none but blanks. -/
def solid? (entry : String × Option String) : Option String :=
  entry.2.filter fun value => !Text.isBlankText value

/-- An attribute gives a value to a name in lower case. -/
structure Gives (name value : String) (entry : String × Option String) : Prop where
  spells : Text.lower entry.1 = name
  present : entry.2 = some value
  solid : Text.isBlankText value = false

/-- The value that an attribute gives to a name. -/
def given? (name : String) (entry : String × Option String) : Option String :=
  if Text.lower entry.1 = name then solid? entry else none

variable {name value : String} {entry : String × Option String} {given : Given}

theorem given?_eq_some_iff : given? name entry = some value ↔ Gives name value entry := by
  rw [given?, solid?]
  split
  case isTrue spells =>
    rw [Option.filter_eq_some_iff]
    exact ⟨fun ⟨present, solid⟩ => ⟨spells, present, by simpa using solid⟩,
      fun gives => ⟨gives.present, by simp [gives.solid]⟩⟩
  case isFalse other => exact ⟨nofun, fun gives => absurd gives.spells other⟩

theorem given?_eq_none_iff : given? name entry = none ↔ ∀ value, ¬Gives name value entry := by
  simp only [Option.eq_none_iff_forall_ne_some, ne_eq, given?_eq_some_iff]

namespace Given

def present (given : Given) : Bindings String := Attributes.present given.entries

/-- The value that attributes give to a name. -/
def value? (name : String) (given : Given) : Option String :=
  given.entries.reverse.findSome? (given? name)

theorem entries_present (given : Given) :
    given.present.entries =
      given.entries.filterMap fun entry => entry.2.map fun value => (entry.1, value) := by
  have part : ((given.entries.filterMap fun entry =>
      entry.2.map fun value => (entry.1, value)).map Prod.fst).Sublist
        (given.entries.map Prod.fst) := by
    generalize given.entries = entries
    induction entries with
    | nil => exact List.Sublist.slnil
    | cons entry rest ih =>
        obtain ⟨name, value⟩ := entry
        cases value with
        | none => exact ih.cons name
        | some value => exact ih.cons_cons name
  exact congrArg Bindings.entries (Bindings.ofList_of_distinct (given.distinct.sublist part))

theorem normalizedTexts_present (given : Given) :
    normalizedTexts given.present = .ofList (given.entries.filterMap fun entry =>
      (solid? entry).map fun value => (Text.lower entry.1, value)) := by
  rw [normalizedTexts, normalized, entries_present, List.filter_filterMap, List.map_filterMap]
  congr 2
  funext entry
  obtain ⟨name, value⟩ := entry
  cases value with
  | none => rfl
  | some value => cases blank : Text.isBlankText value <;> simp [solid?, Option.filter, blank]

theorem get?_present (given : Given) (name : String) :
    (normalizedTexts given.present).get? name = given.value? name := by
  rw [normalizedTexts_present, Bindings.get?_ofList, lastValue?_filterMap, value?]
  congr 1
  funext entry
  rw [given?]
  cases solid? entry <;> simp

theorem value?_eq_none_iff :
    given.value? name = none ↔ ∀ entry ∈ given.entries, ∀ value, ¬Gives name value entry := by
  simp only [value?, List.findSome?_eq_none_iff, List.mem_reverse, given?_eq_none_iff]

end Given

end Attributes

namespace Scope

open Attributes (Given Gives given?_eq_some_iff given?_eq_none_iff)

/-- The scope at the end of a chain of attributes, of which the outermost come first. -/
def ofChain (chain : List Given) : Scope :=
  chain.foldl (fun scope given => scope.overlay given.present) .empty

theorem get?_ofChain (chain : List Given) (name : String) :
    (ofChain chain).get? name = chain.reverse.findSome? (Given.value? name) := by
  induction chain using List.reverseRecOn with
  | nil => rfl
  | append_singleton outer given ih =>
      rw [ofChain, List.foldl_append, ← ofChain, List.foldl_cons, List.foldl_nil, get?_overlay,
        Given.get?_present, ih, List.reverse_append, List.reverse_singleton,
        List.singleton_append, List.findSome?_cons]
      cases given.value? name <;> rfl

/-- A chain of attributes gives a value to a name, and no attribute behind the one that does so, be
it in the same attributes or in those further in, gives the name any value. -/
def Nearest (chain : List Given) (name value : String) : Prop :=
  ∃ outer given inner front entry back,
    chain = outer ++ given :: inner ∧ given.entries = front ++ entry :: back ∧
      Gives name value entry ∧ (∀ other ∈ back, ∀ hidden, ¬Gives name hidden other) ∧
        ∀ further ∈ inner, ∀ other ∈ further.entries, ∀ hidden, ¬Gives name hidden other

theorem get?_ofChain_eq_some_iff {chain : List Given} {name value : String} :
    (ofChain chain).get? name = some value ↔ Nearest chain name value := by
  rw [get?_ofChain, findSome?_reverse_eq_some_iff]
  constructor
  · rintro ⟨outer, given, inner, whole, found, none⟩
    obtain ⟨front, entry, back, entries, gives, behind⟩ := findSome?_reverse_eq_some_iff.mp found
    exact ⟨outer, given, inner, front, entry, back, whole, entries, given?_eq_some_iff.mp gives,
      fun other member => given?_eq_none_iff.mp (behind other member),
      fun further member => Given.value?_eq_none_iff.mp (none further member)⟩
  · rintro ⟨outer, given, inner, front, entry, back, whole, entries, gives, behind, none⟩
    exact ⟨outer, given, inner, whole,
      findSome?_reverse_eq_some_iff.mpr ⟨front, entry, back, entries, given?_eq_some_iff.mpr gives,
        fun other member => given?_eq_none_iff.mpr (behind other member)⟩,
      fun further member => Given.value?_eq_none_iff.mpr (none further member)⟩

theorem binds_ofChain_iff {chain : List Given} {name : String} :
    (ofChain chain).binds name = true ↔
      ∃ given ∈ chain, ∃ entry ∈ given.entries, ∃ value, Gives name value entry := by
  have unbound : (ofChain chain).get? name = none ↔
      ∀ given ∈ chain, ∀ entry ∈ given.entries, ∀ value, ¬Gives name value entry := by
    rw [get?_ofChain, List.findSome?_eq_none_iff]
    simp only [List.mem_reverse, Given.value?_eq_none_iff]
  rw [Bindings.binds, ← not_iff_not, Bool.not_eq_true, Option.isSome_eq_false_iff,
    Option.isNone_iff_eq_none, unbound]
  simp

theorem overlay_normalizedTexts (outer : Scope) (attributes : Bindings String) :
    outer.overlay (Attributes.normalizedTexts attributes) = outer.overlay attributes := by
  rw [overlay, Attributes.normalizedTexts_normalizedTexts, overlay]

/-- Attributes without a value for a name, blank ones included, leave it to those around them. -/
theorem get?_overlay_of_blank (outer : Scope) {given : Given} {name : String}
    (blank : ∀ entry ∈ given.entries, ∀ value, ¬Gives name value entry) :
    (outer.overlay given.present).get? name = outer.get? name := by
  rw [get?_overlay, Given.get?_present, Given.value?_eq_none_iff.mpr blank, Option.none_or]

/-- The scope of an element that is drawn is made of the attributes of the elements around it and of
its own, as they are written. -/
theorem scope_reached {text : String} {document : Document}
    (found : Document.read text = .ok document) {path : List Markup.Element}
    {inside : Drawing.Context} (reached : (document.outermost.bind fun outermost =>
      outermost.along document.rules path) = .ok inside) :
    inside.scope = (document.root.element :: path).foldl
      (fun scope element => scope.overlay element.attributes) .empty := by
  obtain ⟨outermost, root, along⟩ := Drawing.bind_eq_ok reached
  rw [Document.outermost_eq_enter (Document.scope_of_read found)] at root
  rw [Drawing.Context.along_scope along, Drawing.Context.enter_scope root, List.foldl_cons]
  simp only [overlay_normalizedTexts]

/-- A scope binds a name if an attribute in its chain gives the name a value, to the value given
last by the innermost attributes that give one. Blank attributes do not hide those around them, and
it does not matter whether names are brought to lower case once more on the way, as it is done where
elements are drawn. -/
theorem ofChain_nearest :
    (∀ (chain : List Given) (name : String),
      ((ofChain chain).binds name = true ↔
        ∃ given ∈ chain, ∃ entry ∈ given.entries, ∃ value, Gives name value entry) ∧
      ∀ value, (ofChain chain).get? name = some value ↔ Nearest chain name value) ∧
    (∀ (outer : Scope) (given : Given) (name : String),
      (∀ entry ∈ given.entries, ∀ value, ¬Gives name value entry) →
        (outer.overlay given.present).get? name = outer.get? name) ∧
    (∀ (outer : Scope) (attributes : Bindings String),
      outer.overlay (Attributes.normalizedTexts attributes) = outer.overlay attributes) ∧
    ∀ (text : String) (document : Document) (path : List Markup.Element)
      (inside : Drawing.Context), Document.read text = .ok document →
      (document.outermost.bind fun outermost => outermost.along document.rules path) = .ok inside →
        inside.scope = (document.root.element :: path).foldl
          (fun scope element => scope.overlay element.attributes) .empty :=
  ⟨fun _ _ => ⟨binds_ofChain_iff, fun _ => get?_ofChain_eq_some_iff⟩,
    fun outer _ _ => get?_overlay_of_blank outer, overlay_normalizedTexts,
    fun _ _ _ _ found reached => scope_reached found reached⟩

/-- Two colors, under names with capitals. -/
def wall : Given := ⟨[("Fill", some "red"), ("STROKE", some "blue")], by decide⟩

/-- A color in two spellings, of which the second is blank, and another one that is only blank. -/
def niche : Given :=
  ⟨[("FILL", some "green"), ("fill", some " "), ("stroke", none), ("Stroke", some "\t")], by decide⟩

theorem ofChain_nearest_niche :
    (ofChain [wall, niche]).get? "fill" = some "green" ∧
      ((ofChain [wall]).overlay niche.present).get? "stroke" = (ofChain [wall]).get? "stroke" ∧
      (ofChain [wall]).get? "stroke" = some "blue" ∧
      ∃ (document : Document) (inside : Drawing.Context),
        Document.read Document.tinted = .ok document ∧
        inside.scope = [Document.tintedRoot, Document.tintedGroup, Document.tintedRect].foldl
          (fun scope element => scope.overlay element.attributes) .empty := by
  obtain ⟨lookup, blanks, _, scopes⟩ := ofChain_nearest
  have fill : Nearest [wall, niche] "fill" "green" := by
    refine ⟨[wall], niche, [], [], ("FILL", some "green"),
      [("fill", some " "), ("stroke", none), ("Stroke", some "\t")], rfl, rfl,
      given?_eq_some_iff.mp (by decide), fun other member => given?_eq_none_iff.mp ?_, by simp⟩
    revert other
    decide
  have stroke : Nearest [wall] "stroke" "blue" :=
    ⟨[], wall, [], [("Fill", some "red")], ("STROKE", some "blue"), [], rfl, rfl,
      given?_eq_some_iff.mp (by decide), by simp, by simp⟩
  have blank : ∀ entry ∈ niche.entries, ∀ value, ¬Gives "stroke" value entry := by
    refine fun entry member => given?_eq_none_iff.mp ?_
    revert entry
    decide
  obtain ⟨document, inside, found, _, root, reached, _⟩ := Document.tinted_reached
  have drawn := scopes _ document _ inside found reached
  rw [root] at drawn
  exact ⟨((lookup [wall, niche] "fill").2 "green").mpr fill, blanks _ niche "stroke" blank,
    ((lookup [wall] "stroke").2 "blue").mpr stroke, document, inside, found, drawn⟩

end Scope

end Vignette
