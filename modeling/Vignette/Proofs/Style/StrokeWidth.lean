import Mathlib.Data.List.Induction
import Vignette.Proofs.Style.Cascade

namespace Vignette

/-! The width of strokes along a path of elements, each inside the one before it. The nearest
element that sets the width decides it. But a width that is inherited is no more than a number: a
zero gives way to a visible stroke also where an element above has set it, and a stroke that was
visible leaves its width behind when it is taken away again. -/

namespace Style

theorem resolve_strokeWidth {attributes : Bindings String} {scope : Scope} {rules : Rules}
    {inherited paint : Paint} (resolved : resolve attributes scope rules inherited = .ok paint) :
    paint.strokeWidth =
      settledWidth (setting? "stroke-width" attributes (appliedDeclarations scope rules))
        (.whole inherited.strokeWidth) paint.stroke := by
  rw [resolve, resolveFrom] at resolved
  obtain ⟨fill, _, onward⟩ := Drawing.bind_eq_ok resolved
  obtain ⟨stroke, _, same⟩ := Drawing.bind_eq_ok onward
  obtain rfl := Except.ok.inj same
  rfl

end Style

namespace Drawing

open Markup (Element)
open Style (Rules WidthSource appliedDeclarations selecting setting? settledWidth)

variable {rules : Rules} {outer inside : Context} {around path : List Element} {element : Element}

/-- What an element on a path makes of strokes: the text that sets their width, if there is one, and
their color. -/
structure Station where
  setting : Option String
  stroke : Color

def widthSetting? (rules : Rules) (scope : Scope) (element : Element) : Option String :=
  setting? "stroke-width" (Attributes.normalizedTexts element.attributes)
    (appliedDeclarations scope rules)

/-- The stations on a path, as far as the elements on it can be entered. -/
def Context.stations (rules : Rules) (outer : Context) : List Element → List Station
  | [] => []
  | element :: rest =>
    (outer.enter rules element).toOption.toList.flatMap fun inside =>
      ⟨widthSetting? rules inside.scope element, inside.paint.stroke⟩ :: inside.stations rules rest

/-- The text that sets the width nearest to the end of a path. -/
def nearestSetting? (stations : List Station) : Option String :=
  stations.reverse.findSome? Station.setting

/-- The stations below the nearest one that sets the width, the last one first. -/
def unsetStations (stations : List Station) : List Station :=
  stations.reverse.takeWhile fun station => station.setting.isNone

def coercedWidth (set : Option String) : Nat :=
  (set.map fun text => (WidthSource.text text).resolve).getD 0

/-- The width at the end of a path. -/
def widthThrough (stations : List Station) : Nat :=
  if coercedWidth (nearestSetting? stations) = 0 ∧
      ∃ station ∈ unsetStations stations, station.stroke ≠ .transparent then 1
  else coercedWidth (nearestSetting? stations)

theorem Context.stations_cons (entered : outer.enter rules element = .ok inside)
    (rest : List Element) :
    outer.stations rules (element :: rest) =
      ⟨widthSetting? rules inside.scope element, inside.paint.stroke⟩ ::
        inside.stations rules rest := by
  rw [stations, entered]
  exact List.append_nil _

theorem Context.stations_snoc {inner : Context} (reached : outer.along rules around = .ok inner)
    (entered : inner.enter rules element = .ok inside) :
    outer.stations rules (around ++ [element]) =
      outer.stations rules around ++
        [⟨widthSetting? rules inside.scope element, inside.paint.stroke⟩] := by
  induction around generalizing outer with
  | nil =>
      obtain rfl := Except.ok.inj reached
      exact stations_cons entered []
  | cons first rest ih =>
      rw [along, List.foldlM_cons] at reached
      obtain ⟨next, before, onward⟩ := bind_eq_ok reached
      rw [List.cons_append, stations_cons before, stations_cons before, ih onward,
        List.cons_append]

theorem widthThrough_snoc (stations : List Station) (station : Station) :
    widthThrough (stations ++ [station]) =
      settledWidth station.setting (.whole (widthThrough stations)) station.stroke := by
  obtain ⟨setting, stroke⟩ := station
  cases setting with
  | some text =>
      have nearest : nearestSetting? (stations ++ [⟨some text, stroke⟩]) = some text := by
        simp [nearestSetting?]
      have unset : unsetStations (stations ++ [⟨some text, stroke⟩]) = [] := by
        simp [unsetStations]
      rw [widthThrough, nearest, unset, if_neg (by simp)]
      rfl
  | none =>
      have nearest : nearestSetting? (stations ++ [⟨none, stroke⟩]) = nearestSetting? stations := by
        simp [nearestSetting?]
      have unset : unsetStations (stations ++ [⟨none, stroke⟩]) =
          ⟨none, stroke⟩ :: unsetStations stations := by
        simp [unsetStations]
      simp only [widthThrough, nearest, unset, List.mem_cons, exists_eq_or_imp, settledWidth,
        WidthSource.resolve, Int.toNat_natCast]
      by_cases zero : coercedWidth (nearestSetting? stations) = 0 <;>
        by_cases visible : stroke = .transparent <;>
        by_cases above : ∃ station ∈ unsetStations stations, station.stroke ≠ .transparent <;>
        simp [zero, visible, above]

theorem Context.enter_strokeWidth (entered : outer.enter rules element = .ok inside) :
    inside.paint.strokeWidth =
      settledWidth (widthSetting? rules inside.scope element) (.whole outer.paint.strokeWidth)
        inside.paint.stroke := by
  rw [enter] at entered
  obtain ⟨paint, resolved, whole⟩ := bind_eq_ok entered
  obtain rfl := Except.ok.inj whole
  exact Style.resolve_strokeWidth resolved

theorem Context.along_strokeWidth (unset : outer.paint.strokeWidth = 0)
    (reached : outer.along rules path = .ok inside) :
    inside.paint.strokeWidth = widthThrough (outer.stations rules path) := by
  induction path using List.reverseRecOn generalizing inside with
  | nil =>
      obtain rfl := Except.ok.inj reached
      rw [unset, stations, widthThrough, if_neg (by simp [unsetStations])]
      rfl
  | append_singleton around element ih =>
      obtain ⟨inner, before, entered⟩ := Context.along_snoc_ok reached
      rw [enter_strokeWidth entered, ih before, stations_snoc before entered, widthThrough_snoc]

/-- Whether an element carries all attributes that select declarations for it itself, so that none
of them is in force around it only. -/
def SelectsAlone (around : List Element) (element : Element) : Prop :=
  ∀ name ∈ selecting, ((Attributes.normalizedTexts element.attributes).get? name).isSome = true ∨
    ∀ other ∈ around, (Attributes.normalizedTexts other.attributes).get? name = none

/-- The text by which an element sets the width of strokes with nothing but what it carries. -/
def ownWidth? (rules : Rules) (element : Element) : Option String :=
  widthSetting? rules (Attributes.normalizedTexts element.attributes) element

theorem widthSetting?_eq_own (reached : outer.along rules (around ++ [element]) = .ok inside)
    (bare : outer.scope = .empty) (alone : SelectsAlone around element) :
    widthSetting? rules inside.scope element = ownWidth? rules element := by
  obtain ⟨inner, before, entered⟩ := Context.along_snoc_ok reached
  have same : appliedDeclarations
      (inner.scope.overlay (Attributes.normalizedTexts element.attributes)) rules =
        appliedDeclarations (Attributes.normalizedTexts element.attributes) rules := by
    apply Style.appliedDeclarations_congr
    intro name among
    rw [Scope.get?_overlay, Attributes.normalizedTexts_normalizedTexts]
    rcases alone name among with carries | lacking
    · obtain ⟨value, found⟩ := Option.isSome_iff_exists.mp carries
      rw [found]
      rfl
    · rw [Context.along_scope before, bare, scope_along_none rfl lacking, Option.or_none]
  rw [ownWidth?, widthSetting?, widthSetting?, Context.enter_scope entered, same]

theorem Context.stations_own (bare : outer.scope = .empty)
    (reached : outer.along rules path = .ok inside)
    (alone : ∀ around element, around ++ [element] <+: path → SelectsAlone around element) :
    (outer.stations rules path).map Station.setting = path.map (ownWidth? rules) := by
  induction path using List.reverseRecOn generalizing inside with
  | nil => rfl
  | append_singleton around element ih =>
      obtain ⟨inner, before, entered⟩ := Context.along_snoc_ok reached
      have above := ih before fun front other upTo =>
        alone front other (upTo.trans (List.prefix_append around [element]))
      rw [stations_snoc before entered, List.map_append, List.map_append, above, List.map_singleton,
        widthSetting?_eq_own reached bare (alone around element List.prefix_rfl),
        List.map_singleton]

/-- The width by the rule that an explicit width is inherited as it is, and that without one only
visible strokes have a width. -/
def ruledWidth (stations : List Station) (stroke : Color) : Nat :=
  match nearestSetting? stations with
  | some text => (WidthSource.text text).resolve
  | none => if stroke = .transparent then 0 else 1

theorem widthThrough_eq_ruled_iff {stations : List Station} {stroke : Color}
    (last : nearestSetting? stations = none → stroke ≠ .transparent →
      ∃ station ∈ unsetStations stations, station.stroke ≠ .transparent) :
    widthThrough stations = ruledWidth stations stroke ↔
      (coercedWidth (nearestSetting? stations) = 0 →
        (nearestSetting? stations = none → stroke = .transparent) →
          ∀ station ∈ unsetStations stations, station.stroke = .transparent) := by
  rw [widthThrough, ruledWidth]
  by_cases visible : ∃ station ∈ unsetStations stations, station.stroke ≠ .transparent
  · have seen : ¬ ∀ station ∈ unsetStations stations, station.stroke = .transparent := by
      simpa using visible
    cases nearest : nearestSetting? stations with
    | none =>
        have unset : coercedWidth none = 0 := rfl
        by_cases clear : stroke = .transparent <;> simp [unset, visible, seen, clear]
    | some text =>
        have coerced : coercedWidth (some text) = (WidthSource.text text).resolve := rfl
        rw [coerced]
        by_cases zero : (WidthSource.text text).resolve = 0 <;> simp [zero, visible, seen]
  · have clear : ∀ station ∈ unsetStations stations, station.stroke = .transparent := by
      simpa using visible
    rw [if_neg fun both => visible both.2]
    refine iff_of_true ?_ fun _ _ => clear
    cases nearest : nearestSetting? stations with
    | none =>
        have unseen : stroke = .transparent := by
          by_contra seen
          exact visible (last nearest seen)
        exact (if_pos unseen).symm
    | some text => rfl

/-- Where nothing sets the width, the last stroke is one of those that have none set. -/
theorem Context.visible_unset (reached : outer.along rules path = .ok inside)
    (clear : outer.paint.stroke = .transparent)
    (unset : nearestSetting? (outer.stations rules path) = none)
    (visible : inside.paint.stroke ≠ .transparent) :
    ∃ station ∈ unsetStations (outer.stations rules path), station.stroke ≠ .transparent := by
  induction path using List.reverseRecOn with
  | nil =>
      obtain rfl := Except.ok.inj reached
      exact absurd clear visible
  | append_singleton around element _ =>
      obtain ⟨inner, before, entered⟩ := Context.along_snoc_ok reached
      rw [stations_snoc before entered] at unset ⊢
      rw [nearestSetting?, List.reverse_append, List.findSome?_append,
        Option.or_eq_none_iff] at unset
      refine ⟨⟨widthSetting? rules inside.scope element, inside.paint.stroke⟩, ?_, visible⟩
      rw [unsetStations, List.reverse_append, List.reverse_singleton, List.singleton_append,
        List.takeWhile_cons_of_pos (by simpa using unset.1)]
      exact List.mem_cons_self

/-- The width of strokes at the end of a path from the root is what the nearest setting says, or one
if that is zero, or missing, and a stroke is visible below it. What sets the width at an element is
what the element carries, unless a class, an identifier or a style of an element around it is in
force. So the width is the ruled one unless a visible stroke has met with an explicit zero, or has
brought a width without any setting and is then taken away. -/
theorem strokeWidth_along
    (reached : (⟨.empty, .default⟩ : Context).along rules path = .ok inside) :
    let stations := (⟨.empty, .default⟩ : Context).stations rules path
    inside.paint.strokeWidth = widthThrough stations ∧
    ((∀ around element, around ++ [element] <+: path → SelectsAlone around element) →
      stations.map Station.setting = path.map (ownWidth? rules)) ∧
    (inside.paint.strokeWidth = ruledWidth stations inside.paint.stroke ↔
      (coercedWidth (nearestSetting? stations) = 0 →
        (nearestSetting? stations = none → inside.paint.stroke = .transparent) →
          ∀ station ∈ unsetStations stations, station.stroke = .transparent)) := by
  intro stations
  have width := Context.along_strokeWidth rfl reached
  refine ⟨width, Context.stations_own rfl reached, ?_⟩
  rw [width]
  exact widthThrough_eq_ruled_iff fun unset visible =>
    Context.visible_unset reached rfl unset visible

/-- A group that sets the color of strokes, and their width to zero. -/
def hiddenStrokes : Element := ⟨"g", ⟨[("stroke", "red"), ("stroke-width", "0")]⟩⟩

def wideStrokes : Element := ⟨"g", ⟨[("stroke", "blue"), ("stroke-width", "2")]⟩⟩

def plainLine : Element := ⟨"line", .empty⟩

theorem strokeWidth_along_plainLine : ∃ inside,
    (⟨.empty, .default⟩ : Context).along .empty [hiddenStrokes, wideStrokes, plainLine] =
      .ok inside ∧
    (∀ around element, around ++ [element] <+: [hiddenStrokes, wideStrokes, plainLine] →
      SelectsAlone around element) ∧
    ((⟨.empty, .default⟩ : Context).stations .empty
      [hiddenStrokes, wideStrokes, plainLine]).map Station.setting = [some "0", some "2", none] ∧
    inside.paint.strokeWidth = 2 := by
  have widths : ((⟨.empty, .default⟩ : Context).along .empty
      [hiddenStrokes, wideStrokes, plainLine]).map (fun inside => inside.paint.strokeWidth) =
        .ok 2 := by decide +kernel
  have plain : ∀ element ∈ [hiddenStrokes, wideStrokes, plainLine], ∀ name ∈ selecting,
      (Attributes.normalizedTexts element.attributes).get? name = none := by decide
  have alone : ∀ around element, around ++ [element] <+: [hiddenStrokes, wideStrokes, plainLine] →
      SelectsAlone around element := fun around element upTo name among =>
    .inr fun other member => plain other (upTo.subset (List.mem_append_left _ member)) name among
  cases reached : (⟨.empty, .default⟩ : Context).along .empty
      [hiddenStrokes, wideStrokes, plainLine] with
  | error reason => rw [reached] at widths; cases widths
  | ok inside =>
      rw [reached] at widths
      have settings := (strokeWidth_along reached).2.1 alone
      have own : [hiddenStrokes, wideStrokes, plainLine].map (ownWidth? .empty) =
          [some "0", some "2", none] := by decide
      exact ⟨inside, rfl, alone, settings.trans own, Except.ok.inj widths⟩

def visibleStrokes : Element := ⟨"g", ⟨[("stroke", "red")]⟩⟩

def strokeless : Element := ⟨"line", ⟨[("stroke", "none")]⟩⟩

/-- Nothing sets a width, and the stroke that has brought one is taken away. Its width stays. -/
theorem strokeWidth_departs :
    [visibleStrokes, strokeless].map (ownWidth? .empty) = [none, none] ∧
      ((⟨.empty, .default⟩ : Context).along .empty [visibleStrokes, strokeless]).map
        (fun inside => (inside.paint.stroke, inside.paint.strokeWidth)) =
          .ok (.transparent, 1) := by
  constructor <;> decide +kernel

end Drawing

end Vignette
