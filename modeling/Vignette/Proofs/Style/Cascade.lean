import Vignette.Proofs.Attributes
import Vignette.Proofs.Drawing.Turns

namespace Vignette

/-! Where the color of an element comes from, if the element sets it by an attribute of its own and
has no class, identifier or style of its own. Those of the elements around it stay in force, and
what they declare goes before the attribute; when they declare nothing, the attribute decides. -/

namespace Style

/-- The attributes by which declarations come to apply to an element. -/
def selecting : List String := ["class", "id", "style"]

variable {scope other : Scope} {rules : Rules}

theorem appliedDeclarations_congr
    (same : ∀ name ∈ selecting, scope.get? name = other.get? name) :
    appliedDeclarations scope rules = appliedDeclarations other rules := by
  have classes := same "class" (by decide)
  have identifier := same "id" (by decide)
  have style := same "style" (by decide)
  simp only [appliedDeclarations, Rules.matching, Rules.selectorsFor, Bindings.getD, classes,
    identifier, style]

theorem appliedDeclarations_none (absent : ∀ name ∈ selecting, scope.get? name = none)
    (property : String) : (appliedDeclarations scope rules).get? property = none := by
  have same : appliedDeclarations scope rules = appliedDeclarations .empty rules :=
    appliedDeclarations_congr absent
  rw [same]
  rfl

inductive Part where
  | fill
  | stroke

def Part.property : Part → String
  | .fill => "fill"
  | .stroke => "stroke"

def Part.color : Part → Paint → Color
  | .fill, paint => paint.fill
  | .stroke, paint => paint.stroke

theorem resolve_color {attributes : Bindings String} {inherited paint : Paint}
    (resolved : resolve attributes scope rules inherited = .ok paint) (part : Part) :
    resolveColor (((setting? part.property attributes (appliedDeclarations scope rules)).map
      ColorSource.text).getD (.color (part.color inherited))) scope = .ok (part.color paint) := by
  rw [resolve, resolveFrom] at resolved
  obtain ⟨fill, filled, onward⟩ := Drawing.bind_eq_ok resolved
  obtain ⟨stroke, stroked, same⟩ := Drawing.bind_eq_ok onward
  obtain rfl := Except.ok.inj same
  cases part with
  | fill => exact filled
  | stroke => exact stroked

end Style

namespace Drawing

open Markup (Element)
open Style (Part Rules appliedDeclarations selecting)

variable {rules : Rules}

/-- What the elements around a place make of a property by their classes, identifiers and styles. -/
def imposed? (rules : Rules) (around : List Element) (property : String) : Option String :=
  let scope := around.foldl
    (fun scope element => scope.overlay (Attributes.normalizedTexts element.attributes)) .empty
  (appliedDeclarations scope rules).get? property

theorem scope_along_none {around : List Element} {name : String} {scope : Scope}
    (absent : scope.get? name = none)
    (lacking : ∀ element ∈ around,
      (Attributes.normalizedTexts element.attributes).get? name = none) :
    (around.foldl (fun scope element => scope.overlay
      (Attributes.normalizedTexts element.attributes)) scope).get? name = none := by
  induction around generalizing scope with
  | nil => exact absent
  | cons element rest ih =>
      refine ih ?_ fun other member => lacking other (List.mem_cons_of_mem _ member)
      rw [Scope.get?_overlay, Attributes.normalizedTexts_normalizedTexts,
        lacking element List.mem_cons_self, absent]
      rfl

theorem imposed?_none {around : List Element} (plain : ∀ element ∈ around, ∀ name ∈ selecting,
    (Attributes.normalizedTexts element.attributes).get? name = none) (property : String) :
    imposed? rules around property = none :=
  Style.appliedDeclarations_none
    (fun name among => scope_along_none rfl fun element member => plain element member name among)
    property

theorem Context.enter_eq_map (rules : Rules) (outer : Context) (element : Element) :
    outer.enter rules element =
      (Style.resolve (Attributes.normalizedTexts element.attributes)
        (outer.scope.overlay (Attributes.normalizedTexts element.attributes)) rules
        outer.paint).map
          (Context.mk (outer.scope.overlay (Attributes.normalizedTexts element.attributes))) := by
  rw [Context.enter]
  cases Style.resolve (Attributes.normalizedTexts element.attributes)
      (outer.scope.overlay (Attributes.normalizedTexts element.attributes)) rules outer.paint with
  | error reason => rfl
  | ok paint => rfl

theorem Context.enter_color {inner inside : Context} {element : Element}
    (entered : inner.enter rules element = .ok inside)
    (plain : ∀ name ∈ selecting,
      (Attributes.normalizedTexts element.attributes).get? name = none)
    {part : Part} {value : String}
    (given : (Attributes.normalizedTexts element.attributes).get? part.property = some value) :
    Style.resolveColor
        (.text (((appliedDeclarations inner.scope rules).get? part.property).getD value))
        inside.scope = .ok (part.color inside.paint) := by
  rw [Context.enter] at entered
  obtain ⟨paint, resolved, whole⟩ := bind_eq_ok entered
  obtain rfl := Except.ok.inj whole
  -- The element selects nothing itself, so that the same declarations apply as around it.
  have same : appliedDeclarations (inner.scope.overlay
      (Attributes.normalizedTexts element.attributes)) rules =
        appliedDeclarations inner.scope rules := by
    apply Style.appliedDeclarations_congr
    intro name among
    rw [Scope.get?_overlay, Attributes.normalizedTexts_normalizedTexts, plain name among]
    rfl
  have color := Style.resolve_color resolved part
  rw [Style.setting?, given, same] at color
  generalize (appliedDeclarations inner.scope rules).get? part.property = imposed at color ⊢
  cases imposed with
  | none => exact color
  | some declared => exact color

theorem Context.along_snoc_ok {outer inside : Context} {around : List Element} {element : Element}
    (reached : outer.along rules (around ++ [element]) = .ok inside) :
    ∃ inner, outer.along rules around = .ok inner ∧ inner.enter rules element = .ok inside := by
  cases before : outer.along rules around with
  | error reason =>
      rw [Context.along] at before reached
      rw [List.foldlM_append, before] at reached
      cases reached
  | ok inner =>
      rw [Context.along_snoc before] at reached
      exact ⟨inner, rfl, reached⟩

end Drawing

namespace Document

open Drawing
open Markup (Element)
open Style (Part selecting)

theorem ofTree_eq_ok {root : Markup.Node} {document : Document}
    (made : ofTree root = .ok document) :
    document.scope = Scope.overlay .empty document.root.attributes ∧ document.root = root := by
  rw [ofTree] at made
  cases boxed : ViewBox.ofAttribute ((Scope.overlay .empty root.attributes).get? "viewbox") with
  | error reason => rw [boxed] at made; cases made
  | ok viewBox =>
      rw [boxed] at made
      obtain rfl := Except.ok.inj made
      exact ⟨rfl, rfl⟩

theorem scope_of_read {text : String} {document : Document}
    (found : Document.read text = .ok document) :
    document.scope = Scope.overlay .empty document.root.attributes := by
  rw [Document.read] at found
  cases parsed : Markup.parse text with
  | error reason => rw [parsed] at found; cases found
  | ok root =>
      rw [parsed] at found
      change (ofTree root).mapError _ = _ at found
      cases made : ofTree root with
      | error reason => rw [made] at found; cases found
      | ok other =>
          rw [made] at found
          obtain rfl := Except.ok.inj found
          exact (ofTree_eq_ok made).1

theorem outermost_eq_enter {document : Document}
    (rooted : document.scope = Scope.overlay .empty document.root.attributes) :
    document.outermost =
      Context.enter document.rules ⟨.empty, .default⟩ document.root.element := by
  have same : Scope.overlay .empty (Attributes.normalizedTexts document.root.attributes) =
      document.scope := by
    rw [rooted, Scope.overlay, Scope.overlay, Attributes.normalizedTexts_normalizedTexts]
  rw [Document.outermost, Context.enter_eq_map, ← same]
  rfl

/-- An element with a color of its own, and without a class, an identifier and a style, has the
color that those of the elements around it declare, and its own where they declare none. -/
theorem own_color {text : String} {document : Document}
    (found : Document.read text = .ok document) {path around : List Element} {element : Element}
    (lineage : document.root.element :: path = around ++ [element]) {inside : Context}
    (reached : (document.outermost.bind fun outermost =>
      outermost.along document.rules path) = .ok inside)
    (plain : ∀ name ∈ selecting,
      (Attributes.normalizedTexts element.attributes).get? name = none)
    (part : Part) {value : String}
    (given : (Attributes.normalizedTexts element.attributes).get? part.property = some value) :
    Style.resolveColor (.text ((imposed? document.rules around part.property).getD value))
        inside.scope = .ok (part.color inside.paint) ∧
      ((∀ other ∈ around, ∀ name ∈ selecting,
          (Attributes.normalizedTexts other.attributes).get? name = none) →
        imposed? document.rules around part.property = none) := by
  refine ⟨?_, fun plainAround => imposed?_none plainAround part.property⟩
  have whole : Context.along document.rules ⟨.empty, .default⟩ (around ++ [element]) =
      .ok inside := by
    rw [← lineage, Context.along, List.foldlM_cons,
      ← outermost_eq_enter (scope_of_read found)]
    exact reached
  obtain ⟨inner, before, entered⟩ := Context.along_snoc_ok whole
  have color := Context.enter_color entered plain given
  rw [Context.along_scope before] at color
  exact color

/-- A rectangle that sets both colors, in a group whose style sets one of them. -/
def tinted : String :=
  "<svg viewBox=\"0 0 9 9\"><g style=\"fill:red\"><rect fill=\"blue\" stroke=\"lime\"/></g></svg>"

def tintedRoot : Element := ⟨"svg", ⟨[("viewBox", "0 0 9 9")]⟩⟩

def tintedGroup : Element := ⟨"g", ⟨[("style", "fill:red")]⟩⟩

def tintedRect : Element := ⟨"rect", ⟨[("fill", "blue"), ("stroke", "lime")]⟩⟩

theorem tinted_reached : ∃ document inside, Document.read tinted = .ok document ∧
    document.root.places.map Markup.Place.path = [[tintedGroup, tintedRect], [tintedGroup]] ∧
    document.root.element = tintedRoot ∧
    (document.outermost.bind fun outermost =>
      outermost.along document.rules [tintedGroup, tintedRect]) = .ok inside ∧
    inside.paint.fill = ⟨255, 0, 0, 0⟩ := by
  have facts : ((Document.read tinted).toOption.bind fun document =>
      (document.outermost.bind fun outermost =>
        outermost.along document.rules [tintedGroup, tintedRect]).toOption.map fun inside =>
          (document.root.places.map Markup.Place.path, document.root.element, inside.paint.fill)) =
      some ([[tintedGroup, tintedRect], [tintedGroup]], tintedRoot, ⟨255, 0, 0, 0⟩) := by
    decide +kernel
  cases found : Document.read tinted with
  | error reason => rw [found] at facts; cases facts
  | ok document =>
      rw [found] at facts
      cases reached : document.outermost.bind fun outermost =>
          outermost.along document.rules [tintedGroup, tintedRect] with
      | error reason => simp [Except.toOption, reached] at facts
      | ok inside =>
          simp only [Except.toOption, Option.bind_some, reached, Option.map_some,
            Option.some.injEq, Prod.mk.injEq] at facts
          exact ⟨document, inside, rfl, facts.1, facts.2.1, reached, facts.2.2⟩

theorem own_color_tinted : ∃ document inside, Document.read tinted = .ok document ∧
    (document.outermost.bind fun outermost =>
      outermost.along document.rules [tintedGroup, tintedRect]) = .ok inside ∧
    (∀ name ∈ selecting, (Attributes.normalizedTexts tintedRect.attributes).get? name = none) ∧
    (Attributes.normalizedTexts tintedRect.attributes).get? "stroke" = some "lime" ∧
    Style.resolveColor (.text ((imposed? document.rules [tintedRoot, tintedGroup]
      "stroke").getD "lime")) inside.scope = .ok inside.paint.stroke := by
  obtain ⟨document, inside, found, _, root, reached, _⟩ := tinted_reached
  have plain : ∀ name ∈ selecting,
      (Attributes.normalizedTexts tintedRect.attributes).get? name = none := by decide
  have given : (Attributes.normalizedTexts tintedRect.attributes).get? "stroke" =
      some "lime" := by decide
  have lineage : document.root.element :: [tintedGroup, tintedRect] =
      [tintedRoot, tintedGroup] ++ [tintedRect] := by rw [root]; rfl
  exact ⟨document, inside, found, reached, plain, given,
    (own_color found lineage reached plain .stroke given).1⟩

theorem own_color_overruled : ∃ document inside, Document.read tinted = .ok document ∧
    document.root.places.map Markup.Place.path = [[tintedGroup, tintedRect], [tintedGroup]] ∧
    (document.outermost.bind fun outermost =>
      outermost.along document.rules [tintedGroup, tintedRect]) = .ok inside ∧
    (∀ name ∈ selecting, (Attributes.normalizedTexts tintedRect.attributes).get? name = none) ∧
    (Attributes.normalizedTexts tintedRect.attributes).get? "fill" = some "blue" ∧
    Style.resolveColor (.text "blue") inside.scope ≠ .ok inside.paint.fill := by
  obtain ⟨document, inside, found, places, _, reached, fill⟩ := tinted_reached
  have blue : Style.resolveColor (.text "blue") inside.scope = .ok ⟨0, 0, 255, 0⟩ := by
    rw [Style.resolveColor, if_neg (by decide)]
    rfl
  refine ⟨document, inside, found, places, reached, by decide, by decide, ?_⟩
  rw [blue, fill]
  simp

end Document

end Vignette
