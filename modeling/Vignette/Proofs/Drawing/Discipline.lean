import Vignette.Proofs.Drawing.Turns

namespace Vignette

/-! The calls that reach a canvas while a document is drawn. Stroke width and blending are settings
that all elements share, and elements in an element are drawn before it. Still each stroke has the
width of the element that makes it, and blending is off for nothing but the ellipses that are filled
again. -/

namespace Drawing

open Markup (Place)
open Style (Paint Rules)

/-- A call with the place of the element that makes it, and the paint it makes it with. -/
structure Issued where
  place : Place
  paint : Paint
  call : Call Float

/-- What an element asks of the canvas in its turn. If its shape has no calls for a fault, it has
still set the width of strokes. -/
def callsInTurn (mode : Path.Mode) (place : Place) (inside : Context) : List (Call Float) :=
  .setStrokeWidth inside.paint.strokeWidth ::
    match shape mode place.element.name place.text inside.scope inside.paint with
    | .error _ => []
    | .ok own => own.calls

def issued (mode : Path.Mode) (rules : Rules) (outermost : Context) : List Place → List Issued
  | [] => []
  | place :: rest =>
    match outermost.along rules place.path with
    | .error _ => []
    | .ok inside =>
      (callsInTurn mode place inside).map (Issued.mk place inside.paint) ++
        match turn mode rules outermost place with
        | .error _ => []
        | .ok _ => issued mode rules outermost rest

variable {mode : Path.Mode} {rules : Rules} {outermost inside : Context} {place : Place}
  {places : List Place}

theorem issued_calls (made : List (Call Float)) :
    (made.map (Issued.mk place inside.paint)).map Issued.call = made := by
  rw [List.map_map]
  exact List.map_id made

theorem callsInTurn_of_turn {drawn : Rendering}
    (taken : turn mode rules outermost place = .ok drawn) :
    ∃ inside, outermost.along rules place.path = .ok inside ∧
      callsInTurn mode place inside = drawn.calls := by
  obtain ⟨inside, own, reached, shaped, rfl⟩ := turn_eq_ok taken
  exact ⟨inside, reached, by rw [callsInTurn, shaped]⟩

theorem callsInTurn_of_fault {reason : Fault}
    (reached : outermost.along rules place.path = .ok inside)
    (fails : turn mode rules outermost place = .error reason) :
    callsInTurn mode place inside = [.setStrokeWidth inside.paint.strokeWidth] := by
  rw [turn_of_reached reached, ownRendering] at fails
  rw [callsInTurn]
  cases own : shape mode place.element.name place.text inside.scope inside.paint with
  | error reason => rfl
  | ok calls => rw [own] at fails; cases fails

theorem issued_cons_of_turn {drawn : Rendering}
    (taken : turn mode rules outermost place = .ok drawn) (rest : List Place) :
    (issued mode rules outermost (place :: rest)).map Issued.call =
      drawn.calls ++ (issued mode rules outermost rest).map Issued.call := by
  obtain ⟨inside, reached, made⟩ := callsInTurn_of_turn taken
  rw [issued, reached, taken]
  dsimp only
  rw [List.map_append, issued_calls, made]

theorem issued_of_turns {drawn : Rendering}
    (taken : turns mode rules outermost places = .ok drawn) :
    (issued mode rules outermost places).map Issued.call = drawn.calls := by
  induction places generalizing drawn with
  | nil =>
      obtain rfl := Except.ok.inj taken
      rfl
  | cons place rest ih =>
      obtain ⟨own, more, first, later, rfl⟩ := turns_cons_ok taken
      rw [issued_cons_of_turn first, ih later]
      rfl

/-- If not all turns are taken, the calls are those drawn before the first that is not, and what
sets the width of strokes if that turn has a paint. -/
theorem issued_of_fault {reason : Fault}
    (fails : turns mode rules outermost places = .error reason) :
    ∃ front place rest drawn, places = front ++ place :: rest ∧
      turns mode rules outermost front = .ok drawn ∧
      turn mode rules outermost place = .error reason ∧
      (issued mode rules outermost places).map Issued.call = drawn.calls ++
        match outermost.along rules place.path with
        | .error _ => []
        | .ok inside => [.setStrokeWidth inside.paint.strokeWidth] := by
  induction places with
  | nil => cases fails
  | cons place rest ih =>
      rw [← List.singleton_append, turns_append, turns_singleton] at fails
      cases taken : turn mode rules outermost place with
      | error fault =>
          rw [taken] at fails
          obtain rfl := Except.error.inj fails
          refine ⟨[], place, rest, .empty, rfl, rfl, taken, ?_⟩
          rw [issued]
          cases reached : outermost.along rules place.path with
          | error reason => rfl
          | ok inside =>
              rw [taken]
              dsimp only
              rw [List.append_nil, issued_calls, callsInTurn_of_fault reached taken]
              rfl
      | ok own =>
          cases later : turns mode rules outermost rest with
          | ok more => rw [taken, later] at fails; cases fails
          | error fault =>
              rw [taken, later] at fails
              obtain rfl := Except.error.inj fails
              obtain ⟨front, stopped, behind, drawn, rfl, before, stops, calls⟩ := ih later
              refine ⟨place :: front, stopped, behind, own ++ drawn, rfl, ?_, stops, ?_⟩
              · rw [← List.singleton_append, turns_append, turns_singleton, taken, before]
                rfl
              · rw [issued_cons_of_turn taken, calls, ← List.append_assoc]
                rfl

theorem steady_of_callsInTurn (mode : Path.Mode) (place : Place) (inside : Context) :
    ∃ own, callsInTurn mode place inside = .setStrokeWidth inside.paint.strokeWidth :: own ∧
      Steady inside.paint own := by
  rw [callsInTurn]
  cases drawn : shape mode place.element.name place.text inside.scope inside.paint with
  | error reason => exact ⟨[], rfl, .nil⟩
  | ok own => exact ⟨own.calls, rfl, shape_steady drawn⟩

theorem callsInTurn_blending (mode : Path.Mode) (place : Place) (inside : Context) :
    blendingAfter true (callsInTurn mode place inside) = true := by
  obtain ⟨own, whole, steady⟩ := steady_of_callsInTurn mode place inside
  rw [whole]
  exact steady.blendingAfter_eq

theorem issued_blending (places : List Place) :
    blendingAfter true ((issued mode rules outermost places).map Issued.call) = true := by
  induction places with
  | nil => rfl
  | cons place rest ih =>
      rw [issued]
      cases outermost.along rules place.path with
      | error reason => rfl
      | ok inside =>
          dsimp only
          rw [List.map_append, issued_calls, blendingAfter_append, callsInTurn_blending]
          cases turn mode rules outermost place with
          | error reason => rfl
          | ok own => exact ih

/-- A call that an element makes in its turn, between all calls before and after it. Blending is on
when the turn begins. -/
inductive InTurn (mode : Path.Mode) (rules : Rules) (outermost : Context) (places : List Place) :
    List (Call Float) → Issued → List (Call Float) → Prop
  | mk {place : Place} {inside : Context} {earlier front back later : List (Call Float)}
      {call : Call Float} (member : place ∈ places)
      (reached : outermost.along rules place.path = .ok inside)
      (made : callsInTurn mode place inside = front ++ call :: back)
      (on : blendingAfter true earlier = true) :
      InTurn mode rules outermost places (earlier ++ front) ⟨place, inside.paint, call⟩
        (back ++ later)

theorem append_eq_append_cons {β : Type} {first second before after : List β} {one : β}
    (split : first ++ second = before ++ one :: after) :
    (∃ more, first = before ++ one :: more ∧ after = more ++ second) ∨
      ∃ more, before = first ++ more ∧ second = more ++ one :: after := by
  rcases List.append_eq_append_iff.mp split with ⟨more, before_eq, second_eq⟩ | ⟨more, first_eq, rest⟩
  · exact .inr ⟨more, before_eq, second_eq⟩
  · cases more with
    | nil => exact .inr ⟨[], by simpa using first_eq.symm, rest.symm⟩
    | cons head more =>
        obtain ⟨rfl, after_eq⟩ := List.cons.inj rest
        exact .inl ⟨more, first_eq, after_eq⟩

theorem InTurn.later {before after : List (Call Float)} {one : Issued}
    (later : InTurn mode rules outermost places before one after) (inside : Context) :
    InTurn mode rules outermost (place :: places) (callsInTurn mode place inside ++ before) one
      after := by
  obtain ⟨member, reached, made, on⟩ := later
  rw [← List.append_assoc]
  refine .mk (List.mem_cons_of_mem _ member) reached made ?_
  rw [blendingAfter_append, callsInTurn_blending, on]

theorem issued_in_turn {before after : List Issued} {one : Issued}
    (split : issued mode rules outermost places = before ++ one :: after) :
    InTurn mode rules outermost places (before.map Issued.call) one (after.map Issued.call) := by
  induction places generalizing before with
  | nil => simp [issued] at split
  | cons place rest ih =>
      rw [issued] at split
      cases reached : outermost.along rules place.path with
      | error reason => rw [reached] at split; simp at split
      | ok inside =>
          rw [reached] at split
          rcases append_eq_append_cons split with ⟨more, made, after_eq⟩ | ⟨more, before_eq, rest_eq⟩
          · obtain ⟨front, back, whole, front_eq, back_eq⟩ := List.map_eq_append_iff.mp made
            obtain ⟨call, own, rfl, rfl, own_eq⟩ := List.map_eq_cons_iff.mp back_eq
            rw [← front_eq, after_eq, ← own_eq, List.map_append, issued_calls, issued_calls]
            have on : blendingAfter true ([] : List (Call Float)) = true := rfl
            exact .mk List.mem_cons_self reached whole on
          · cases taken : turn mode rules outermost place with
            | error reason => rw [taken] at rest_eq; simp at rest_eq
            | ok own =>
                rw [taken] at rest_eq
                rw [before_eq, List.map_append, issued_calls]
                exact (ih rest_eq).later inside

/-- Where a call stands among all others: it sets the width of strokes at the beginning of a turn,
or that was done before it in its turn, and since then nothing has changed the width. -/
theorem InTurn.cases {before after : List (Call Float)} {one : Issued}
    (turn : InTurn mode rules outermost places before one after) :
    (one.call = .setStrokeWidth one.paint.strokeWidth ∧ blendingAfter true before = true) ∨
      Stands one.paint before one.call after ∧
        ∃ earlier between, before = earlier ++ .setStrokeWidth one.paint.strokeWidth :: between ∧
          ∀ call ∈ between, call.setsWidth = false := by
  obtain ⟨member, reached, made, on⟩ := turn
  rename_i place inside earlier front back later call
  obtain ⟨own, whole, steady⟩ := steady_of_callsInTurn mode place inside
  rw [whole] at made
  cases front with
  | nil =>
      obtain ⟨rfl, rfl⟩ := List.cons.inj made
      exact .inl ⟨rfl, by rw [List.append_nil, on]⟩
  | cons head front =>
      obtain ⟨rfl, own_eq⟩ := List.cons.inj made
      have stillOn : blendingAfter true
          (earlier ++ [.setStrokeWidth inside.paint.strokeWidth]) = true := by
        rw [blendingAfter_append, on]
        rfl
      have stands := (steady.stands own_eq).between stillOn later
      rw [List.append_assoc] at stands
      refine .inr ⟨stands, earlier, front, rfl, fun other inFront => ?_⟩
      refine steady.setsWidth_eq other ?_
      rw [own_eq]
      exact List.mem_append_left _ inFront

theorem InTurn.reached {before after : List (Call Float)} {one : Issued}
    (turn : InTurn mode rules outermost places before one after) :
    one.place ∈ places ∧ ∃ inside, outermost.along rules one.place.path = .ok inside ∧
      one.paint = inside.paint := by
  obtain ⟨member, reached, _, _⟩ := turn
  exact ⟨member, _, reached, rfl⟩

end Drawing

namespace Document

open Drawing
open Markup (Element)

/-- All calls that are made while a document is drawn, up to the first fault. -/
def issued (document : Document) (mode : Path.Mode) : List Issued :=
  match document.outermost with
  | .error _ => []
  | .ok outermost => Drawing.issued mode document.rules outermost document.root.places

theorem issued_of_rendering {document : Document} {mode : Path.Mode} {drawn : Rendering}
    (found : document.rendering mode = .ok drawn) :
    (document.issued mode).map Issued.call = drawn.calls := by
  rw [rendering_eq_drawAll] at found
  obtain ⟨outermost, root, drew⟩ := bind_eq_ok found
  unfold Document.issued
  rw [root]
  rw [drawAll_children_eq_turns] at drew
  exact issued_of_turns drew

theorem issued_in_turn {document : Document} {mode : Path.Mode} {before after : List Issued}
    {one : Issued} (split : document.issued mode = before ++ one :: after) :
    ∃ outermost, document.outermost = .ok outermost ∧
      InTurn mode document.rules outermost document.root.places (before.map Issued.call) one
        (after.map Issued.call) := by
  unfold Document.issued at split
  cases root : document.outermost with
  | error reason => rw [root] at split; simp at split
  | ok outermost =>
      rw [root] at split
      exact ⟨outermost, rfl, Drawing.issued_in_turn split⟩

theorem issued_blending (document : Document) (mode : Path.Mode) :
    blendingAfter true ((document.issued mode).map Issued.call) = true := by
  unfold Document.issued
  cases document.outermost with
  | error reason => rfl
  | ok outermost => exact Drawing.issued_blending document.root.places

/-- Whatever is drawn, and also if drawing stops at a fault: each call is made with the paint at
its element's place; each stroke has a width, which is the one last set and that of its paint;
blending is turned off for one ellipse at a time, and is on for all other painting and in the end;
each filled polygon has at least three vertices. -/
theorem issued_disciplined (document : Document) (mode : Path.Mode) :
    (∀ drawn, document.rendering mode = .ok drawn →
      (document.issued mode).map Issued.call = drawn.calls) ∧
    (∀ (typeface : Typeface Float) (canvas : Canvas), canvas.blending = true →
      (canvas.performAll typeface ((document.issued mode).map Issued.call)).blending = true) ∧
    ∀ (before : List Issued) (one : Issued) (after : List Issued),
      document.issued mode = before ++ one :: after →
      (∃ outermost inside, document.outermost = .ok outermost ∧
        one.place ∈ document.root.places ∧
        outermost.along document.rules one.place.path = .ok inside ∧ one.paint = inside.paint) ∧
      (one.call.strokes = true → 1 ≤ one.paint.strokeWidth ∧
        ∃ earlier between, before.map Issued.call =
            earlier ++ .setStrokeWidth one.paint.strokeWidth :: between ∧
          ∀ call ∈ between, call.setsWidth = false) ∧
      (one.call = .setBlending false →
        ∃ center radiusX radiusY color later, after.map Issued.call =
          .fillEllipse center radiusX radiusY color :: .setBlending true :: later) ∧
      (one.call = .setBlending true →
        ∃ earlier center radiusX radiusY color, before.map Issued.call =
          earlier ++ [.setBlending false, .fillEllipse center radiusX radiusY color]) ∧
      (∀ (typeface : Typeface Float) (canvas : Canvas), canvas.blending = true →
        (canvas.performAll typeface (before.map Issued.call)).blending = true ∨
          one.call = .setBlending true ∨
          ∃ earlier center radiusX radiusY color later,
            before.map Issued.call = earlier ++ [.setBlending false] ∧
            one.call = .fillEllipse center radiusX radiusY color ∧
            after.map Issued.call = .setBlending true :: later) ∧
      ∀ vertices color, one.call = .fillPolygon vertices color → 3 ≤ vertices.length := by
  refine ⟨fun drawn => issued_of_rendering, ?_, ?_⟩
  · intro typeface canvas on
    rw [performAll_blending, on, issued_blending]
  · intro before one after split
    obtain ⟨outermost, root, turn⟩ := issued_in_turn split
    obtain ⟨member, inside, reached, same⟩ := turn.reached
    refine ⟨⟨outermost, inside, root, member, reached, same⟩, ?_⟩
    rcases turn.cases with ⟨sets, on⟩ | ⟨stands, set⟩
    · rw [sets]
      refine ⟨nofun, nofun, nofun, fun typeface canvas blends => .inl ?_, nofun⟩
      rw [performAll_blending, blends, on]
    · refine ⟨fun strokes => ⟨stands.wide strokes, set⟩, stands.after_off, stands.before_on, ?_,
        fun _ _ => stands.enough⟩
      intro typeface canvas blends
      rw [performAll_blending, blends]
      exact stands.blending

/-- A stroked circle around a line whose stroke has another width. -/
def target : Document where
  root := .mk ⟨"svg", .empty⟩ "" [.mk ⟨"circle", ⟨[("stroke", "black"), ("stroke-width", "4")]⟩⟩ ""
    [.mk ⟨"line", ⟨[("stroke-width", "3")]⟩⟩ "" []]]
  scope := .empty
  viewBox := ⟨0, 0, 1, 1⟩

theorem issued_disciplined_target :
    (∃ drawn, target.rendering .continuous = .ok drawn ∧
      (target.issued .continuous).map Issued.call = drawn.calls) ∧
    (Canvas.performAll .invisible (.blank 1 1 ⟨255, 255, 255, 255⟩ true)
      ((target.issued .continuous).map Issued.call)).blending = true ∧
    (∃ before one after, target.issued .continuous = before ++ one :: after ∧
      one.call.strokes = true ∧ one.paint.strokeWidth = 3 ∧ 1 ≤ one.paint.strokeWidth) ∧
    ∃ before one after, target.issued .continuous = before ++ one :: after ∧
      one.call = .setBlending false ∧ ∃ center radiusX radiusY color later,
        after.map Issued.call =
          .fillEllipse center radiusX radiusY color :: .setBlending true :: later := by
  obtain ⟨calls, ends, each⟩ := issued_disciplined target .continuous
  let circle : Element := ⟨"circle", ⟨[("stroke", "black"), ("stroke-width", "4")]⟩⟩
  let line : Element := ⟨"line", ⟨[("stroke-width", "3")]⟩⟩
  refine ⟨?_, ends _ _ rfl, ?_, ?_⟩
  · cases found : target.rendering .continuous with
    | error reason =>
        have drawn : (target.rendering .continuous).isOk = true := by rfl
        rw [found] at drawn
        cases drawn
    | ok drawn => exact ⟨drawn, rfl, calls drawn found⟩
  · let stroke : Issued :=
      ⟨⟨[circle], line, ""⟩, ⟨.black, .black, 3⟩, .strokeLine ⟨0, 0⟩ ⟨0, 0⟩ .black⟩
    have split : target.issued .continuous = (target.issued .continuous).take 1 ++
        stroke :: (target.issued .continuous).drop 2 := by rfl
    exact ⟨_, stroke, _, split, rfl, rfl, ((each _ stroke _ split).2.1 rfl).1⟩
  · let off : Issued := ⟨⟨[], circle, ""⟩, ⟨.black, .black, 4⟩, .setBlending false⟩
    have split : target.issued .continuous = (target.issued .continuous).take 5 ++
        off :: (target.issued .continuous).drop 6 := by rfl
    exact ⟨_, off, _, split, rfl, (each _ off _ split).2.2.1 rfl⟩

end Document

end Vignette
