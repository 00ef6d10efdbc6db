import Vignette.Proofs.Style.Table
import Vignette.Style.Paint

namespace Vignette.Style

/-! Which of the places that may set a property of an element decides. Reading an element lays
declarations over each other, weaker ones first; asked the other way around, the first place that
sets the property decides, and nothing else matters for it. -/

def rulesOf (sheets : List String) : List Rule :=
  sheets.flatMap fun sheet => (blocks sheet.toList).map Block.rule

/-- What the rule of a selector says of a property: all blocks with the selector together are one
rule, in which the last declaration counts. -/
def ruled? (rules : List Rule) (property selector : String) : Option String :=
  Bindings.lastValue? property ((rules.filter (selector ∈ ·.selectors)).flatMap Rule.declarations)

namespace Rules

theorem ofSheets_eq (sheets : List String) :
    ofSheets sheets = (rulesOf sheets).foldl addRule .empty := by
  rw [ofSheets, rulesOf, List.foldl_flatMap]
  congr 1
  funext table sheet
  rw [List.foldl_map]
  rfl

theorem lookup_ofSheets (sheets : List String) (selector property : String) :
    ((ofSheets sheets).lookup selector).get? property =
      ruled? (rulesOf sheets) property selector := by
  rw [ofSheets_eq, lookup_addRules]
  exact Option.or_none

/-- Every rule in a table has one value for each of its properties. -/
def Settled (table : Rules) : Prop := ∀ selector, (table.lookup selector).Distinct

theorem Settled.add {table : Rules} (settled : table.Settled) (declarations : Declarations)
    (selector : String) : (add declarations table selector).Settled := by
  intro other
  rw [lookup, Bindings.getD, get?_add]
  split
  · exact (settled selector).putAll _
  · exact settled other

theorem Settled.addRules {table : Rules} (settled : table.Settled) (rules : List Rule) :
    (rules.foldl addRule table).Settled := by
  induction rules generalizing table with
  | nil => exact settled
  | cons rule rest ih =>
      refine ih ?_
      rw [addRule]
      -- One rule adds its declarations for each of its selectors in turn.
      generalize rule.selectors = selectors
      induction selectors generalizing table with
      | nil => exact settled
      | cons selector others again => exact again (settled.add _ selector)

theorem settled_ofSheets (sheets : List String) : (ofSheets sheets).Settled := by
  rw [ofSheets_eq]
  refine Settled.addRules (fun selector => ?_) _
  exact List.nodup_nil

theorem get?_foldl_overlay {table : Rules} (settled : table.Settled) (selectors : List String)
    (found : Declarations) (property : String) :
    (selectors.foldl (fun found selector => found.overlay (table.lookup selector)) found).get?
        property =
      (selectors.reverse.findSome? fun selector => (table.lookup selector).get? property).or
        (found.get? property) := by
  induction selectors generalizing found with
  | nil => rfl
  | cons selector rest ih =>
      rw [List.foldl_cons, ih, Bindings.get?_overlay _ (settled selector), List.reverse_cons,
        List.findSome?_append, Option.or_assoc, List.findSome?_singleton]

end Rules

section Sources

variable (rules : List Rule) (scope : Scope) (property : String)

def fromStyle? : Option String :=
  Bindings.lastValue? property (declarationList (scope.getD "style" "").toList)

/-- What the rule of the identifier says of a property. An empty identifier is none. -/
def fromIdentifier? : Option String :=
  ((scope.get? "id").filter fun id => !id.isEmpty).bind fun id =>
    ruled? rules property (String.ofList ('#' :: Text.trim id.toList))

/-- What the rule of the last class that says anything of a property says of it. -/
def fromClasses? : Option String :=
  (Text.words (scope.getD "class" "").toList).reverse.findSome? fun name =>
    ruled? rules property (String.ofList ('.' :: name))

/-- The text that decides about a property: the first that exists. -/
def decisive? (attributes : Bindings String) : Option String :=
  (fromStyle? scope property).or <| (fromIdentifier? rules scope property).or <|
    (fromClasses? rules scope property).or (attributes.get? property)

end Sources

/-- The color that is given where a text may ask for the color in force. -/
def colorWith (current : String) : ColorSource → Except Fault Color
  | .text s =>
    Color.ofText (if Text.lower (Text.trimmed s) = "currentcolor" then current else s)
  | other => other.resolve

/-- The width that is given: by what decides, or else by the element around. It is one instead of
zero if nothing decides and the stroke is visible. -/
def widthWith (decided : Option String) (inherited : WidthSource) (stroke : Color) : Nat :=
  let width := ((decided.map WidthSource.text).getD inherited).resolve
  if width = 0 ∧ decided = none ∧ stroke ≠ .transparent then 1 else width

variable {attributes : Bindings String} {scope : Scope} {sheets : List String} {property : String}

theorem get?_matching : ((Rules.ofSheets sheets).matching scope).get? property =
    (fromIdentifier? (rulesOf sheets) scope property).or
      (fromClasses? (rulesOf sheets) scope property) := by
  have classes : (((Text.words (scope.getD "class" "").toList).map fun name =>
      String.ofList ('.' :: name)).reverse.findSome? fun selector =>
        ruled? (rulesOf sheets) property selector) =
          fromClasses? (rulesOf sheets) scope property := by
    rw [← List.map_reverse, List.findSome?_map]
    rfl
  rw [Rules.matching, Rules.get?_foldl_overlay (Rules.settled_ofSheets sheets),
    Bindings.get?_empty, Option.or_none]
  simp only [Rules.lookup_ofSheets]
  rw [Rules.selectorsFor, fromIdentifier?]
  cases scope.get? "id" with
  | none => exact classes
  | some id =>
      cases empty : id.isEmpty with
      | true =>
          simp only [empty, if_true, Option.filter, Bool.not_true, Bool.false_eq_true, if_false]
          exact classes
      | false =>
          simp only [empty, Bool.false_eq_true, if_false, Option.filter, Bool.not_false, if_true]
          rw [List.reverse_append, List.findSome?_append, classes, List.reverse_singleton,
            List.findSome?_singleton, Option.bind_some]

theorem get?_appliedDeclarations :
    (appliedDeclarations scope (Rules.ofSheets sheets)).get? property =
      (fromStyle? scope property).or ((fromIdentifier? (rulesOf sheets) scope property).or
        (fromClasses? (rulesOf sheets) scope property)) := by
  rw [appliedDeclarations, declarations, declarationsOf,
    Bindings.get?_overlay _ (Bindings.distinct_ofList _), Bindings.get?_ofList, get?_matching]
  rfl

theorem setting?_eq : setting? property attributes (appliedDeclarations scope (.ofSheets sheets)) =
    decisive? (rulesOf sheets) scope property attributes := by
  rw [setting?, get?_appliedDeclarations, decisive?, Option.or_assoc, Option.or_assoc]

theorem resolveColor_eq (source : ColorSource) :
    resolveColor source scope = colorWith (scope.getD "color" "black") source := by
  cases source with
  | text s =>
      rw [resolveColor, colorWith]
      split <;> rfl
  | handle | color => rfl

theorem settledWidth_eq (set : Option String) (inherited : WidthSource) (stroke : Color) :
    settledWidth set inherited stroke = widthWith set inherited stroke := by
  cases set with
  | some text => simp [settledWidth, widthWith]
  | none => simp [settledWidth, widthWith]

/-- An element gets a paint exactly if both its colors can be read, and then each part of it follows
from what decides about this part and from what is inherited for it. Only the width may depend on
another part, the stroke. -/
theorem resolveFrom_eq_ok_iff {inherited : PaintSource} {paint : Paint} :
    resolveFrom attributes scope (.ofSheets sheets) inherited = .ok paint ↔
      colorWith (scope.getD "color" "black") (((decisive? (rulesOf sheets) scope "fill"
        attributes).map .text).getD inherited.fill) = .ok paint.fill ∧
      colorWith (scope.getD "color" "black") (((decisive? (rulesOf sheets) scope "stroke"
        attributes).map .text).getD inherited.stroke) = .ok paint.stroke ∧
      paint.strokeWidth = widthWith (decisive? (rulesOf sheets) scope "stroke-width" attributes)
        inherited.strokeWidth paint.stroke := by
  obtain ⟨fill, stroke, strokeWidth⟩ := paint
  simp only [resolveFrom, setting?_eq, resolveColor_eq, settledWidth_eq]
  generalize colorWith _ (((decisive? (rulesOf sheets) scope "fill" attributes).map _).getD _) =
    filled
  generalize colorWith _ (((decisive? (rulesOf sheets) scope "stroke" attributes).map _).getD _) =
    stroked
  cases filled with
  | error reason => exact ⟨nofun, nofun⟩
  | ok own =>
      cases stroked with
      | error reason => exact ⟨nofun, nofun⟩
      | ok line =>
          simp only [bind, Except.bind, pure, Except.pure, Except.ok.injEq, Paint.mk.injEq]
          constructor
          · rintro ⟨rfl, rfl, rfl⟩
            exact ⟨rfl, rfl, rfl⟩
          · rintro ⟨rfl, rfl, rfl⟩
            exact ⟨rfl, rfl, rfl⟩

end Vignette.Style
