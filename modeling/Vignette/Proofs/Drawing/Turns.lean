import Mathlib.Algebra.GroupWithZero.Nat
import Vignette.Proofs.Drawing.Shapes

namespace Vignette

/-! Drawing a tree gives every element its turn: those in an element before the element itself, and
those beside each other in order. What is drawn in a turn follows from the elements around alone,
so that a tree draws what its elements draw one after the other. -/

namespace Markup

/-- Where an element stands below the root of a tree: the elements around it, the outermost first,
and the element with its text. -/
structure Place where
  around : List Element
  element : Element
  text : String

def Place.path (place : Place) : List Element := place.around ++ [place.element]

namespace Node

mutual

/-- The places in a node, each after the places in it, and at last the one of the node. -/
def placesFrom (around : List Element) : Node → List Place
  | .mk element text children =>
    placesAllFrom (around ++ [element]) children ++ [⟨around, element, text⟩]

def placesAllFrom (around : List Element) : List Node → List Place
  | [] => []
  | node :: rest => node.placesFrom around ++ placesAllFrom around rest

end

/-- The places of all elements of a tree but its root. -/
def places (root : Node) : List Place := placesAllFrom [] root.children

mutual

theorem path_of_mem_placesFrom (around : List Element) (node : Node) :
    ∀ place ∈ node.placesFrom around, around ++ [node.element] <+: place.path := by
  obtain ⟨element, text, children⟩ := node
  intro place member
  rcases List.mem_append.mp member with inner | own
  · exact path_of_mem_placesAllFrom (around ++ [element]) children place inner
  · rw [List.mem_singleton.mp own]
    exact List.prefix_rfl

theorem path_of_mem_placesAllFrom (around : List Element) (nodes : List Node) :
    ∀ place ∈ placesAllFrom around nodes, around <+: place.path := by
  intro place member
  cases nodes with
  | nil => simp [placesAllFrom] at member
  | cons node rest =>
      rcases List.mem_append.mp member with first | later
      · exact (List.prefix_append _ _).trans (path_of_mem_placesFrom around node place first)
      · exact path_of_mem_placesAllFrom around rest place later

end

mutual

theorem length_placesFrom (around : List Element) (node : Node) :
    (node.placesFrom around).length = node.preorder.length := by
  obtain ⟨element, text, children⟩ := node
  rw [placesFrom, preorder, List.length_append, length_placesAllFrom _ children]
  rfl

theorem length_placesAllFrom (around : List Element) (nodes : List Node) :
    (placesAllFrom around nodes).length = (preorderAll nodes).length := by
  cases nodes with
  | nil => rfl
  | cons node rest =>
      rw [placesAllFrom, preorderAll, List.length_append, List.length_append,
        length_placesFrom around node, length_placesAllFrom around rest]

end

theorem placesAllFrom_append (around : List Element) (front back : List Node) :
    placesAllFrom around (front ++ back) =
      placesAllFrom around front ++ placesAllFrom around back := by
  induction front with
  | nil => rfl
  | cons node rest ih =>
      rw [List.cons_append, placesAllFrom, ih, placesAllFrom, List.append_assoc]

theorem length_places (root : Node) : root.places.length = root.preorder.length - 1 := by
  obtain ⟨element, text, children⟩ := root
  rw [places, length_placesAllFrom, preorder, List.length_cons, Nat.add_sub_cancel]
  rfl

end Node

end Markup

namespace Drawing

open Markup (Element Node Place)
open Style (Paint Rules)

/-- What is in force inside an element. -/
structure Context where
  scope : Scope
  paint : Paint

namespace Context

def enter (rules : Rules) (outer : Context) (element : Element) : Except Fault Context := do
  let attributes := Attributes.normalizedTexts element.attributes
  let scope := Scope.overlay outer.scope attributes
  let paint ← Style.resolve attributes scope rules outer.paint
  return ⟨scope, paint⟩

/-- What is in force behind a number of elements, each inside the one before it. -/
def along (rules : Rules) (outermost : Context) (path : List Element) : Except Fault Context :=
  path.foldlM (enter rules) outermost

end Context

/-- What an element draws when it has its turn. -/
def turn (mode : Path.Mode) (rules : Rules) (outermost : Context) (place : Place) :
    Except Fault Rendering := do
  let inside ← outermost.along rules place.path
  let own ← shape mode place.element.name place.text inside.scope inside.paint
  return ⟨.setStrokeWidth inside.paint.strokeWidth :: own.calls, own.warnings, 1⟩

def Rendering.join (turns : List Rendering) : Rendering :=
  ⟨turns.flatMap Rendering.calls, turns.flatMap Rendering.warnings,
    (turns.map Rendering.count).sum⟩

namespace Rendering

theorem join_append (first second : List Rendering) :
    join (first ++ second) = join first ++ join second := by
  change join (first ++ second) = append (join first) (join second)
  simp [join, append, List.sum_append]

@[simp] theorem join_singleton (drawn : Rendering) : join [drawn] = drawn := by
  simp [join]

end Rendering

def turns (mode : Path.Mode) (rules : Rules) (outermost : Context) (places : List Place) :
    Except Fault Rendering :=
  (places.mapM (turn mode rules outermost)).map Rendering.join

variable {mode : Path.Mode} {rules : Rules} {outermost : Context}

theorem Context.along_snoc {around : List Element} {inner : Context}
    (reached : outermost.along rules around = .ok inner) (element : Element) :
    outermost.along rules (around ++ [element]) = inner.enter rules element := by
  rw [Context.along] at reached ⊢
  rw [List.foldlM_append, reached]
  simp only [List.foldlM_cons, List.foldlM_nil, bind_pure]
  exact pure_bind inner fun outer => outer.enter rules element

theorem turn_of_reached {place : Place} {inside : Context}
    (reached : outermost.along rules place.path = .ok inside) :
    turn mode rules outermost place =
      ownRendering mode place.element.name place.text inside.scope inside.paint := by
  rw [turn, reached, ownRendering]
  change (shape mode place.element.name place.text inside.scope inside.paint).bind _ = _
  cases shape mode place.element.name place.text inside.scope inside.paint with
  | error reason => rfl
  | ok own => rfl

theorem turn_eq_error {place : Place} {path : List Element} {reason : Fault}
    (fails : outermost.along rules path = .error reason) (inside : path <+: place.path) :
    turn mode rules outermost place = .error reason := by
  obtain ⟨more, whole⟩ := inside
  rw [Context.along] at fails
  rw [turn, Context.along, ← whole, List.foldlM_append, fails]
  rfl

theorem turns_append (first second : List Place) :
    turns mode rules outermost (first ++ second) =
      (turns mode rules outermost first).bind fun drawn =>
        (turns mode rules outermost second).map (drawn ++ ·) := by
  rw [turns, turns, turns, List.mapM_append]
  cases first.mapM (turn mode rules outermost) with
  | error reason => rfl
  | ok drawn =>
      cases second.mapM (turn mode rules outermost) with
      | error reason => rfl
      | ok more => exact congrArg Except.ok (Rendering.join_append drawn more)

theorem turns_singleton (place : Place) :
    turns mode rules outermost [place] = turn mode rules outermost place := by
  rw [turns, List.mapM_cons, List.mapM_nil]
  cases turn mode rules outermost place with
  | error reason => rfl
  | ok drawn => exact congrArg Except.ok (Rendering.join_singleton drawn)

theorem turns_eq_error {places : List Place} {reason : Fault} (nonempty : places ≠ [])
    (fails : ∀ place ∈ places, turn mode rules outermost place = .error reason) :
    turns mode rules outermost places = .error reason := by
  cases places with
  | nil => contradiction
  | cons place rest =>
      rw [turns, List.mapM_cons, fails place List.mem_cons_self]
      rfl

theorem draw_mk (inner : Context) (element : Element) (text : String) (children : List Node) :
    draw mode rules inner.scope inner.paint (.mk element text children) =
      (inner.enter rules element).bind fun next =>
        (drawAll mode rules next.scope next.paint children).bind fun within =>
          (ownRendering mode element.name text next.scope next.paint).map (within ++ ·) := by
  rw [draw, Context.enter]
  cases Style.resolve (Attributes.normalizedTexts element.attributes)
      (inner.scope.overlay (Attributes.normalizedTexts element.attributes)) rules inner.paint with
  | error reason => rfl
  | ok paint => rfl

mutual

theorem draw_eq_turns (node : Node) (around : List Element) (inner : Context)
    (reached : outermost.along rules around = .ok inner) :
    draw mode rules inner.scope inner.paint node =
      turns mode rules outermost (node.placesFrom around) := by
  obtain ⟨element, text, children⟩ := node
  have entered := Context.along_snoc reached element
  rw [draw_mk]
  cases found : inner.enter rules element with
  | error reason =>
      -- All places in the element fail as it does, and so does the first of them.
      rw [found] at entered
      have fails : ∀ place ∈ (Node.mk element text children).placesFrom around,
          turn mode rules outermost place = .error reason := fun place member =>
        turn_eq_error entered (Node.path_of_mem_placesFrom around _ place member)
      rw [turns_eq_error (by simp [Node.placesFrom]) fails]
      rfl
  | ok next =>
      rw [found] at entered
      have own : turn mode rules outermost ⟨around, element, text⟩ =
          ownRendering mode element.name text next.scope next.paint := turn_of_reached entered
      rw [Node.placesFrom, turns_append, ← drawAll_eq_turns children _ next entered,
        turns_singleton, own]
      rfl

theorem drawAll_eq_turns (nodes : List Node) (around : List Element) (inner : Context)
    (reached : outermost.along rules around = .ok inner) :
    drawAll mode rules inner.scope inner.paint nodes =
      turns mode rules outermost (Node.placesAllFrom around nodes) := by
  cases nodes with
  | nil => rfl
  | cons node rest =>
      rw [drawAll, draw_eq_turns node around inner reached,
        drawAll_eq_turns rest around inner reached, Node.placesAllFrom, turns_append]
      rfl

end

theorem drawAll_children_eq_turns (mode : Path.Mode) (rules : Rules) (outermost : Context)
    (root : Node) :
    drawAll mode rules outermost.scope outermost.paint root.children =
      turns mode rules outermost root.places :=
  drawAll_eq_turns root.children [] outermost rfl

/-- Nodes beside each other are drawn one by one, and none of them knows the others. -/
theorem drawAll_append (scope : Scope) (paint : Paint) (front back : List Node) :
    drawAll mode rules scope paint (front ++ back) =
      (drawAll mode rules scope paint front).bind fun earlier =>
        (drawAll mode rules scope paint back).map (earlier ++ ·) := by
  have each (nodes : List Node) : drawAll mode rules scope paint nodes =
      turns mode rules ⟨scope, paint⟩ (Node.placesAllFrom [] nodes) :=
    drawAll_eq_turns nodes [] ⟨scope, paint⟩ rfl
  rw [each, each, each, Node.placesAllFrom_append, turns_append]

theorem bind_eq_ok {ε β γ : Type} {first : Except ε β} {next : β → Except ε γ} {result : γ}
    (run : first.bind next = .ok result) : ∃ value, first = .ok value ∧ next value = .ok result := by
  cases first with
  | error reason => cases run
  | ok value => exact ⟨value, rfl, run⟩

theorem toOption_bind_eq_some {ε β γ : Type} {first : Except ε β} {next : β → Option γ} {result : γ}
    (run : first.toOption.bind next = some result) :
    ∃ value, first = .ok value ∧ next value = some result := by
  cases first with
  | error reason => cases run
  | ok value => exact ⟨value, rfl, run⟩

theorem Context.enter_scope {inner next : Context} {element : Element}
    (entered : inner.enter rules element = .ok next) :
    next.scope = inner.scope.overlay (Attributes.normalizedTexts element.attributes) := by
  rw [Context.enter] at entered
  obtain ⟨paint, _, same⟩ := bind_eq_ok entered
  obtain rfl := Except.ok.inj same
  rfl

theorem Context.along_scope {path : List Element} {outer inside : Context}
    (reached : outer.along rules path = .ok inside) :
    inside.scope = path.foldl
      (fun scope element => scope.overlay (Attributes.normalizedTexts element.attributes))
      outer.scope := by
  induction path generalizing outer with
  | nil =>
      obtain rfl := Except.ok.inj reached
      rfl
  | cons element rest ih =>
      rw [Context.along, List.foldlM_cons] at reached
      obtain ⟨next, entered, onward⟩ := bind_eq_ok reached
      rw [ih onward, Context.enter_scope entered, List.foldl_cons]

theorem turn_eq_ok {place : Place} {drawn : Rendering}
    (taken : turn mode rules outermost place = .ok drawn) :
    ∃ inside own, outermost.along rules place.path = .ok inside ∧
      shape mode place.element.name place.text inside.scope inside.paint = .ok own ∧
      drawn = ⟨.setStrokeWidth inside.paint.strokeWidth :: own.calls, own.warnings, 1⟩ := by
  rw [turn] at taken
  obtain ⟨inside, reached, drew⟩ := bind_eq_ok taken
  obtain ⟨own, shaped, same⟩ := bind_eq_ok drew
  exact ⟨inside, own, reached, shaped, (Except.ok.inj same).symm⟩

theorem turn_count {place : Place} {drawn : Rendering}
    (taken : turn mode rules outermost place = .ok drawn) :
    drawn.count = 1 ∧ drawn.calls.countP Call.setsWidth = 1 := by
  obtain ⟨inside, own, _, shaped, rfl⟩ := turn_eq_ok taken
  refine ⟨rfl, ?_⟩
  have none : own.calls.countP Call.setsWidth = 0 := by
    apply List.countP_eq_zero.mpr
    intro call member
    simp [(shape_steady shaped).setsWidth_eq call member]
  rw [List.countP_cons_of_pos rfl, none]

theorem turns_cons_ok {place : Place} {rest : List Place} {drawn : Rendering}
    (taken : turns mode rules outermost (place :: rest) = .ok drawn) :
    ∃ own more, turn mode rules outermost place = .ok own ∧
      turns mode rules outermost rest = .ok more ∧ drawn = own ++ more := by
  rw [← List.singleton_append, turns_append, turns_singleton] at taken
  obtain ⟨own, first, onward⟩ := bind_eq_ok taken
  cases later : turns mode rules outermost rest with
  | error reason => rw [later] at onward; cases onward
  | ok more =>
      rw [later] at onward
      exact ⟨own, more, first, rfl, (Except.ok.inj onward).symm⟩

theorem turns_count {places : List Place} {drawn : Rendering}
    (taken : turns mode rules outermost places = .ok drawn) :
    drawn.count = places.length ∧ drawn.calls.countP Call.setsWidth = places.length := by
  induction places generalizing drawn with
  | nil =>
      obtain rfl := Except.ok.inj taken
      exact ⟨rfl, rfl⟩
  | cons place rest ih =>
      obtain ⟨own, more, first, later, rfl⟩ := turns_cons_ok taken
      obtain ⟨once, set⟩ := turn_count first
      obtain ⟨counted, sets⟩ := ih later
      constructor
      · change own.count + more.count = rest.length + 1
        omega
      · change (own.calls ++ more.calls).countP Call.setsWidth = rest.length + 1
        rw [List.countP_append]
        omega

end Drawing

namespace Document

open Drawing
open Markup (Element Node)
open Style (Rules)

/-- What is in force inside the root of a document. -/
def outermost (document : Document) : Except Fault Context :=
  (Style.resolve (Attributes.normalizedTexts document.root.attributes) document.scope
    document.rules .default).map (Context.mk document.scope)

theorem rendering_eq_drawAll (document : Document) (mode : Path.Mode) :
    document.rendering mode = document.outermost.bind fun outermost =>
      drawAll mode document.rules outermost.scope outermost.paint document.root.children := by
  rw [rendering, outermost]
  cases Style.resolve (Attributes.normalizedTexts document.root.attributes) document.scope
      document.rules .default with
  | error reason => rfl
  | ok paint => rfl

/-- Below the root of a document, whatever the rules and the root's scope and paint, the elements
have their turns in the order of their places. In its turn an element sets the width of strokes and
draws its own shape, with the scope and the paint that result along the path to it. Nodes beside
each other do not depend on each other, and every element counts once. -/
theorem rendering_postorder (mode : Path.Mode) :
    (∀ document : Document, document.rendering mode = document.outermost.bind fun outermost =>
      drawAll mode document.rules outermost.scope outermost.paint document.root.children) ∧
    ∀ (rules : Rules) (outermost : Context) (root : Node),
      drawAll mode rules outermost.scope outermost.paint root.children =
        turns mode rules outermost root.places ∧
      (∀ (path : List Element) (inside : Context), outermost.along rules path = .ok inside →
        inside.scope = path.foldl
          (fun scope element => scope.overlay (Attributes.normalizedTexts element.attributes))
          outermost.scope) ∧
      (∀ (inner : Context) (front : List Node) (node : Node) (back : List Node),
        drawAll mode rules inner.scope inner.paint (front ++ node :: back) =
          (drawAll mode rules inner.scope inner.paint front).bind fun earlier =>
            (draw mode rules inner.scope inner.paint node).bind fun drawn =>
              (drawAll mode rules inner.scope inner.paint back).map fun later =>
                earlier ++ (drawn ++ later)) ∧
      ∀ drawn, drawAll mode rules outermost.scope outermost.paint root.children = .ok drawn →
        drawn.calls.countP Call.setsWidth = drawn.count ∧
          drawn.count = root.preorder.length - 1 := by
  refine ⟨fun document => rendering_eq_drawAll document mode, fun rules outermost root => ?_⟩
  have whole := drawAll_children_eq_turns mode rules outermost root
  refine ⟨whole, fun path inside => Context.along_scope, ?_, ?_⟩
  · intro inner front node back
    rw [drawAll_append, drawAll]
    cases drawAll mode rules inner.scope inner.paint front with
    | error reason => rfl
    | ok earlier =>
        cases draw mode rules inner.scope inner.paint node with
        | error reason => rfl
        | ok drawn =>
            cases drawAll mode rules inner.scope inner.paint back with
            | error reason => rfl
            | ok later => rfl
  · intro drawn found
    rw [whole] at found
    obtain ⟨counted, sets⟩ := turns_count found
    rw [counted, sets, Node.length_places]
    exact ⟨rfl, rfl⟩

def strokedGroup : Element := ⟨"g", ⟨[("stroke", "black")]⟩⟩

/-- A group that sets the color of strokes around a line that sets their width. -/
def sketch : Node :=
  .mk ⟨"svg", .empty⟩ "" [.mk strokedGroup "" [.mk ⟨"line", ⟨[("stroke-width", "3")]⟩⟩ "" []]]

theorem rendering_postorder_sketch :
    ∃ drawn inside,
      drawAll .continuous .empty .empty .default sketch.children = .ok drawn ∧
      (⟨.empty, .default⟩ : Context).along .empty [strokedGroup] = .ok inside ∧
      inside.scope = Scope.overlay .empty (Attributes.normalizedTexts strokedGroup.attributes) ∧
      drawn.calls.countP Call.setsWidth = drawn.count ∧
      drawn.count = sketch.preorder.length - 1 := by
  obtain ⟨_, scopes, _, counts⟩ :=
    (rendering_postorder .continuous).2 .empty ⟨.empty, .default⟩ sketch
  have all : drawAll .continuous .empty .empty .default sketch.children =
      .ok ⟨[.setStrokeWidth 3, .strokeLine ⟨0, 0⟩ ⟨0, 0⟩ .black, .setStrokeWidth 1], [], 2⟩ := by
    rfl
  have reached : (⟨.empty, .default⟩ : Context).along .empty [strokedGroup] =
      .ok ⟨⟨[("stroke", "black")]⟩, ⟨.black, .black, 1⟩⟩ := by rfl
  exact ⟨_, _, all, reached, scopes _ _ reached, counts _ all⟩

end Document

end Vignette
