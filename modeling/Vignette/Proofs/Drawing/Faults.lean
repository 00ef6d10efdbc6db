import Mathlib.Data.List.Induction
import Vignette.Proofs.Color.Faults
import Vignette.Proofs.Markup.DocumentOrder
import Vignette.Proofs.Style.Cascade
import Vignette.Render

namespace Vignette

/-! When a document has a picture: if its size can be counted in bytes, every color that an element
sets can be read, and the data of every path can be flattened. Which attributes are in force at an
element, and so which texts are read there, depends on the elements around it alone. -/

namespace Drawing

theorem bind_succeeds {ε β γ : Type} (first : Except ε β) (next : β → Except ε γ) :
    (∃ result, first.bind next = .ok result) ↔
      ∃ value, first = .ok value ∧ ∃ result, next value = .ok result := by
  cases first <;> simp [Except.bind]

end Drawing

namespace Style

variable {attributes : Bindings String} {scope : Scope} {rules : Rules}

/-- The text that a color is read from, if a text is set for it. -/
def colorText (scope : Scope) (text : String) : String :=
  if Text.lower (Text.trimmed text) = "currentcolor" then scope.getD "color" "black" else text

def Colored (attributes : Bindings String) (scope : Scope) (rules : Rules) : Prop :=
  ∀ (part : Part) (text : String),
    setting? part.property attributes (appliedDeclarations scope rules) = some text →
      ∀ reason, ¬ Color.Unreadable (colorText scope text) reason

theorem resolveColor_text (text : String) (scope : Scope) :
    resolveColor (.text text) scope = Color.ofText (colorText scope text) := by
  rw [resolveColor, colorText]
  split <;> rfl

theorem resolveColor_succeeds (set : Option String) (inherited : Color) (scope : Scope) :
    (∃ color, resolveColor ((set.map ColorSource.text).getD (.color inherited)) scope =
        .ok color) ↔
      ∀ text, set = some text → ∀ reason, ¬ Color.Unreadable (colorText scope text) reason := by
  cases set with
  | none => exact iff_of_true ⟨inherited, rfl⟩ (by simp)
  | some text =>
      simp only [Option.map_some, Option.getD_some, resolveColor_text, Option.some.injEq,
        forall_eq', ← Color.ofText_eq_error]
      cases Color.ofText (colorText scope text) <;> simp

theorem resolve_succeeds (inherited : Paint) :
    (∃ paint, resolve attributes scope rules inherited = .ok paint) ↔
      Colored attributes scope rules := by
  have fills := resolveColor_succeeds
    (setting? "fill" attributes (appliedDeclarations scope rules)) inherited.fill scope
  have strokes := resolveColor_succeeds
    (setting? "stroke" attributes (appliedDeclarations scope rules)) inherited.stroke scope
  rw [resolve, resolveFrom]
  constructor
  · rintro ⟨paint, resolved⟩ part
    obtain ⟨fill, filled, onward⟩ := Drawing.bind_eq_ok resolved
    obtain ⟨stroke, stroked, _⟩ := Drawing.bind_eq_ok onward
    cases part with
    | fill => exact fills.mp ⟨fill, filled⟩
    | stroke => exact strokes.mp ⟨stroke, stroked⟩
  · intro colored
    obtain ⟨fill, filled⟩ := fills.mpr (colored .fill)
    obtain ⟨stroke, stroked⟩ := strokes.mpr (colored .stroke)
    refine (Drawing.bind_succeeds _ _).mpr ⟨fill, filled, ?_⟩
    exact (Drawing.bind_succeeds _ _).mpr ⟨stroke, stroked, _, rfl⟩

end Style

namespace Drawing

open Markup (Element Place)
open Style (Rules)

variable {mode : Path.Mode} {rules : Rules} {outer : Context}

/-- The attributes in force inside the last of some elements, each inside the one before it. -/
def scopeThrough (lineage : List Element) : Scope :=
  lineage.foldl
    (fun scope element => scope.overlay (Attributes.normalizedTexts element.attributes)) .empty

/-- Whether every element of a lineage sets only colors that can be read. -/
def Colored (rules : Rules) (lineage : List Element) : Prop :=
  ∀ around element, around ++ [element] <+: lineage →
    Style.Colored (Attributes.normalizedTexts element.attributes)
      (scopeThrough (around ++ [element])) rules

theorem colored_snoc (around : List Element) (element : Element) :
    Colored rules (around ++ [element]) ↔ Colored rules around ∧
      Style.Colored (Attributes.normalizedTexts element.attributes)
        (scopeThrough (around ++ [element])) rules := by
  constructor
  · intro colored
    exact ⟨fun front other upTo => colored front other (upTo.trans (List.prefix_append _ _)),
      colored around element List.prefix_rfl⟩
  · rintro ⟨before, last⟩ front other upTo
    rcases List.prefix_concat_iff.mp upTo with whole | part
    · obtain ⟨rfl, same⟩ := List.append_inj' whole rfl
      obtain rfl := (List.cons.inj same).1
      exact last
    · exact before front other part

theorem Context.enter_succeeds {element : Element} :
    (∃ inside, outer.enter rules element = .ok inside) ↔
      Style.Colored (Attributes.normalizedTexts element.attributes)
        (outer.scope.overlay (Attributes.normalizedTexts element.attributes)) rules := by
  rw [Context.enter_eq_map, Markup.succeeds_map, Style.resolve_succeeds]

theorem Context.along_succeeds (bare : outer.scope = .empty) (lineage : List Element) :
    (∃ inside, outer.along rules lineage = .ok inside) ↔ Colored rules lineage := by
  induction lineage using List.reverseRecOn with
  | nil => exact iff_of_true ⟨outer, rfl⟩ fun around element upTo => by simp at upTo
  | append_singleton around element ih =>
      -- Paint plays no part in what is in force at the element.
      have scope {inner : Context} (before : outer.along rules around = .ok inner) :
          inner.scope.overlay (Attributes.normalizedTexts element.attributes) =
            scopeThrough (around ++ [element]) := by
        rw [along_scope before, bare, scopeThrough, List.foldl_append]
        rfl
      rw [colored_snoc, ← ih]
      constructor
      · rintro ⟨inside, reached⟩
        obtain ⟨inner, before, entered⟩ := along_snoc_ok reached
        refine ⟨⟨inner, before⟩, ?_⟩
        rw [← scope before]
        exact enter_succeeds.mp ⟨inside, entered⟩
      · rintro ⟨⟨inner, before⟩, colored⟩
        rw [along_snoc before, enter_succeeds, scope before]
        exact colored

theorem shape_succeeds (name text : String) (scope : Scope) (paint : Style.Paint) :
    (∃ own, shape mode name text scope paint = .ok own) ↔
      (name = "path" → ∃ flattening, Path.flatten mode (scope.getD "d" "") = .ok flattening) := by
  unfold shape
  split
  case h_7 => simp [Markup.succeeds_map]
  all_goals simp_all

theorem turn_succeeds (place : Place) :
    (∃ drawn, turn mode rules outer place = .ok drawn) ↔
      ∃ inside, outer.along rules place.path = .ok inside ∧
        (place.element.name = "path" →
          ∃ flattening, Path.flatten mode (inside.scope.getD "d" "") = .ok flattening) := by
  rw [turn]
  refine (bind_succeeds _ _).trans (exists_congr fun inside => and_congr_right fun _ => ?_)
  refine (bind_succeeds _ _).trans ?_
  rw [← shape_succeeds place.element.name place.text inside.scope inside.paint]
  exact exists_congr fun own => and_iff_left ⟨_, rfl⟩

theorem turns_succeed (places : List Place) :
    (∃ drawn, turns mode rules outer places = .ok drawn) ↔
      ∀ place ∈ places, ∃ drawn, turn mode rules outer place = .ok drawn := by
  rw [turns, Markup.succeeds_map, Markup.succeeds_mapM]

end Drawing

namespace Document

open Drawing
open Markup (Element Place)

/-- Whether all elements of a document can be drawn: the colors along the way to each of them can be
read, and the data of each path can be flattened. -/
structure Drawable (document : Document) (mode : Path.Mode) : Prop where
  colors : ∀ path ∈ [] :: document.root.places.map Place.path,
    Colored document.rules (document.root.element :: path)
  paths : ∀ place ∈ document.root.places, place.element.name = "path" →
    ∃ flattening, Path.flatten mode
      ((scopeThrough (document.root.element :: place.path)).getD "d" "") = .ok flattening

variable {document : Document} {outermost : Context}

theorem outermost_along (rooted : document.scope = Scope.overlay .empty document.root.attributes)
    (entered : document.outermost = .ok outermost) (path : List Element) :
    outermost.along document.rules path =
      (⟨.empty, .default⟩ : Context).along document.rules (document.root.element :: path) := by
  rw [outermost_eq_enter rooted] at entered
  rw [Context.along, Context.along, List.foldlM_cons, entered]
  rfl

theorem rendering_succeeds (rooted : document.scope = Scope.overlay .empty document.root.attributes)
    (mode : Path.Mode) :
    (∃ drawn, document.rendering mode = .ok drawn) ↔ document.Drawable mode := by
  have root : (∃ outermost, document.outermost = .ok outermost) ↔
      Colored document.rules [document.root.element] := by
    rw [outermost_eq_enter rooted, Context.enter_succeeds, ← List.nil_append [_], colored_snoc]
    exact (and_iff_right fun around element upTo => by simp at upTo).symm
  rw [rendering_eq_drawAll, bind_succeeds]
  constructor
  · rintro ⟨outermost, entered, drew⟩
    rw [drawAll_children_eq_turns, turns_succeed] at drew
    have reached (place : Place) (member : place ∈ document.root.places) :=
      (turn_succeeds place).mp (drew place member)
    refine ⟨?_, fun place member isPath => ?_⟩
    · simp only [List.mem_cons, List.mem_map, forall_eq_or_imp, forall_exists_index, and_imp]
      refine ⟨root.mp ⟨outermost, entered⟩, ?_⟩
      rintro _ place member rfl
      obtain ⟨inside, along, _⟩ := reached place member
      rw [outermost_along rooted entered] at along
      exact (Context.along_succeeds rfl _).mp ⟨inside, along⟩
    · obtain ⟨inside, along, flattens⟩ := reached place member
      rw [outermost_along rooted entered] at along
      rw [scopeThrough, ← Context.along_scope along]
      exact flattens isPath
  · intro drawable
    obtain ⟨outermost, entered⟩ := root.mpr (drawable.colors [] List.mem_cons_self)
    refine ⟨outermost, entered, ?_⟩
    rw [drawAll_children_eq_turns, turns_succeed]
    intro place member
    have bare : (⟨.empty, .default⟩ : Context).scope = .empty := rfl
    obtain ⟨inside, along⟩ := (Context.along_succeeds bare _).mpr
      (drawable.colors place.path (List.mem_cons_of_mem _ (List.mem_map_of_mem member)))
    refine (turn_succeeds place).mpr ⟨inside, ?_, fun isPath => ?_⟩
    · rw [outermost_along rooted entered]
      exact along
    · rw [Context.along_scope along]
      exact drawable.paths place member isPath

theorem canvas_succeeds (document : Document) (options : Options) :
    (∃ canvas, document.canvas options = .ok canvas) ↔
      Canvas.isTooLarge document.width document.height = false := by
  rw [canvas, Canvas.ofSize, if_neg (by omega)]
  split <;> simp_all

/-- A document has a picture exactly if its size can be counted in bytes and all of its elements can
be drawn. -/
theorem pictureIn_succeeds (typeface : Typeface Float)
    (rooted : document.scope = Scope.overlay .empty document.root.attributes) (options : Options) :
    (∃ picture, document.pictureIn typeface options = .ok picture) ↔
      Canvas.isTooLarge document.width document.height = false ∧
        document.Drawable options.mode := by
  rw [← canvas_succeeds document options, ← rendering_succeeds rooted, pictureIn]
  refine (bind_succeeds _ _).trans ?_
  rw [← exists_and_right]
  refine exists_congr fun canvas => and_congr_right fun _ => ?_
  refine (bind_succeeds _ _).trans (exists_congr fun drawn => and_iff_left ⟨_, rfl⟩)

end Document

end Vignette
