import Vignette.Proofs.Drawing.Faults
import Vignette.Proofs.Drawing.Opacity
import Vignette.Proofs.Drawing.Tools
import Vignette.Proofs.Drawing.Unstyled

namespace Vignette

/-! Style elements in a drawing. What they say is collected before anything is drawn, and when one
has its turn it only sets the width of strokes, which the next element sets again. So where they
stand does not matter to what is drawn, as long as drawing does not stop at one of them because of
a color that it sets. -/

namespace Drawing

open Markup (Element Place plainPlaces plainPlaces_cons_of_plain plainPlaces_cons_of_style)
open Style (Rules)

variable {mode : Path.Mode} {rules : Rules} {outermost inside : Context} {place : Place}
  {places : List Place} {tools : Tools}

theorem Context.along_eq_error {path longer : List Element} {reason : Fault}
    (fails : outermost.along rules path = .error reason) (upTo : path <+: longer) :
    outermost.along rules longer = .error reason := by
  obtain ⟨more, rfl⟩ := upTo
  rw [along] at fails ⊢
  rw [List.foldlM_append, fails]
  rfl

theorem issued_cons_of_error {reason : Fault}
    (fails : outermost.along rules place.path = .error reason) (rest : List Place) :
    issued mode rules outermost (place :: rest) = [] := by
  rw [issued, fails]

theorem issued_cons (reached : outermost.along rules place.path = .ok inside) (rest : List Place) :
    issued mode rules outermost (place :: rest) =
      (callsInTurn mode place inside).map (Issued.mk place inside.paint) ++
        if (turn mode rules outermost place).isOk then issued mode rules outermost rest else [] := by
  rw [issued, reached]
  cases turn mode rules outermost place <;> rfl

theorem shape_style (style : place.isStyle = true) (scope : Scope) (paint : Style.Paint) :
    shape mode place.element.name place.text scope paint = .ok .empty := by
  have named : place.element.name = "style" := of_decide_eq_true style
  simp [shape, named]

theorem turn_style (style : place.isStyle = true)
    (reached : outermost.along rules place.path = .ok inside) :
    turn mode rules outermost place = .ok ⟨[.setStrokeWidth inside.paint.strokeWidth], [], 1⟩ := by
  rw [turn_of_reached reached, ownRendering, shape_style style]
  rfl

/-! ### What style elements ask of the canvas -/

/-- What is asked of the canvas by others than style elements. -/
def plainIssued (made : List Issued) : List Issued := made.filter fun one => !one.place.isStyle

theorem plainIssued_own_of_plain (plain : place.isStyle = false) (paint : Style.Paint)
    (own : List (Call Float)) :
    plainIssued (own.map (Issued.mk place paint)) = own.map (Issued.mk place paint) := by
  refine List.filter_eq_self.mpr fun one member => ?_
  obtain ⟨call, _, rfl⟩ := List.mem_map.mp member
  rw [plain]
  rfl

theorem issued_style (style : place.isStyle = true)
    (reached : outermost.along rules place.path = .ok inside) (rest : List Place) :
    issued mode rules outermost (place :: rest) =
      ⟨place, inside.paint, .setStrokeWidth inside.paint.strokeWidth⟩ ::
        issued mode rules outermost rest := by
  rw [issued_cons reached, turn_style style reached, callsInTurn, shape_style style]
  rfl

theorem plainIssued_issued_of_style (style : place.isStyle = true)
    (reached : outermost.along rules place.path = .ok inside) (rest : List Place) :
    plainIssued (issued mode rules outermost (place :: rest)) =
      plainIssued (issued mode rules outermost rest) := by
  rw [issued_style style reached]
  exact List.filter_cons_of_neg (by rw [style]; decide)

theorem plainIssued_issued_of_plain (plain : place.isStyle = false)
    (reached : outermost.along rules place.path = .ok inside) (rest : List Place) :
    plainIssued (issued mode rules outermost (place :: rest)) =
      (callsInTurn mode place inside).map (Issued.mk place inside.paint) ++
        if (turn mode rules outermost place).isOk then
          plainIssued (issued mode rules outermost rest)
        else [] := by
  rw [issued_cons reached, plainIssued, List.filter_append, ← plainIssued,
    plainIssued_own_of_plain plain]
  cases (turn mode rules outermost place).isOk <;> rfl

/-- The width of strokes that is set before does not matter: each element sets its own. -/
theorem madeWith_issued_strokeWidth (width : Nat) (places : List Place) :
    madeWith { tools with strokeWidth := width }
        ((issued mode rules outermost places).map Issued.call) =
      madeWith tools ((issued mode rules outermost places).map Issued.call) := by
  cases places with
  | nil => rfl
  | cons place rest =>
      cases reached : outermost.along rules place.path with
      | error reason => rw [issued_cons_of_error reached]; rfl
      | ok inside => rw [issued_cons reached]; rfl

theorem madeWith_plainIssued (places : List Place) :
    madeWith tools ((plainIssued (issued mode rules outermost places)).map Issued.call) =
      madeWith tools ((issued mode rules outermost places).map Issued.call) := by
  induction places generalizing tools with
  | nil => rfl
  | cons place rest ih =>
      cases reached : outermost.along rules place.path with
      | error reason =>
          rw [issued_cons_of_error reached]
          rfl
      | ok inside =>
          cases style : place.isStyle with
          | true =>
              rw [plainIssued_issued_of_style style reached, ih, issued_style style reached]
              exact (madeWith_issued_strokeWidth inside.paint.strokeWidth rest).symm
          | false =>
              rw [plainIssued_issued_of_plain style reached, issued_cons reached, List.map_append,
                List.map_append, madeWith_append, madeWith_append]
              cases (turn mode rules outermost place).isOk with
              | false => rfl
              | true => exact congrArg _ ih

/-! ### Drawing without them -/

theorem plainIssued_upTo (places : List Place) :
    plainIssued (issued mode rules outermost places) <+:
      issued mode rules outermost (plainPlaces places) := by
  induction places with
  | nil => exact List.prefix_rfl
  | cons place rest ih =>
      cases reached : outermost.along rules place.path with
      | error reason =>
          rw [issued_cons_of_error reached]
          exact List.nil_prefix
      | ok inside =>
          cases style : place.isStyle with
          | true =>
              rw [plainIssued_issued_of_style style reached, plainPlaces_cons_of_style style]
              exact ih
          | false =>
              rw [plainIssued_issued_of_plain style reached, plainPlaces_cons_of_plain style,
                issued_cons reached, List.prefix_append_right_inj]
              cases (turn mode rules outermost place).isOk with
              | false => exact List.prefix_rfl
              | true => exact ih

/-- Whether drawing never stops at a style element alone: if one cannot be reached, what comes next
cannot be reached either. -/
def Passes (rules : Rules) (outermost : Context) (places : List Place) : Prop :=
  ∀ front place back, places = front ++ place :: back → place.isStyle = true →
    ∀ reason, outermost.along rules place.path = .error reason →
      ∃ next more, plainPlaces back = next :: more ∧
        outermost.along rules next.path = .error reason

theorem Passes.tail (passes : Passes rules outermost (place :: places)) :
    Passes rules outermost places := by
  intro front other back split
  exact passes (place :: front) other back (by rw [split, List.cons_append])

theorem issued_plainPlaces (passes : Passes rules outermost places) :
    issued mode rules outermost (plainPlaces places) =
      plainIssued (issued mode rules outermost places) := by
  induction places with
  | nil => rfl
  | cons place rest ih =>
      cases style : place.isStyle with
      | true =>
          rw [plainPlaces_cons_of_style style]
          cases reached : outermost.along rules place.path with
          | error reason =>
              obtain ⟨next, more, plain, fails⟩ := passes [] place rest rfl style reason reached
              rw [plain, issued_cons_of_error fails, issued_cons_of_error reached]
              rfl
          | ok inside => rw [plainIssued_issued_of_style style reached, ih passes.tail]
      | false =>
          rw [plainPlaces_cons_of_plain style]
          cases reached : outermost.along rules place.path with
          | error reason =>
              rw [issued_cons_of_error reached, issued_cons_of_error reached]
              rfl
          | ok inside =>
              rw [plainIssued_issued_of_plain style reached, issued_cons reached, ih passes.tail]

theorem turns_cons (place : Place) (rest : List Place) :
    turns mode rules outermost (place :: rest) =
      (turn mode rules outermost place).bind fun own =>
        (turns mode rules outermost rest).map (own ++ ·) := by
  rw [← List.singleton_append, turns_append, turns_singleton]

theorem turns_cons_of_error {reason : Fault}
    (fails : outermost.along rules place.path = .error reason) (rest : List Place) :
    turns mode rules outermost (place :: rest) = .error reason := by
  rw [turns_cons, turn_eq_error fails List.prefix_rfl]
  rfl

theorem warnings_turns_cons (place : Place) (rest : List Place) :
    (turns mode rules outermost (place :: rest)).map Rendering.warnings =
      (turn mode rules outermost place).bind fun own =>
        ((turns mode rules outermost rest).map Rendering.warnings).map (own.warnings ++ ·) := by
  rw [turns_cons]
  cases turn mode rules outermost place with
  | error reason => rfl
  | ok own => cases turns mode rules outermost rest <;> rfl

/-- The outcome of drawing is the same: the fault at which it stops, or the warnings if it does
not. -/
theorem turns_plainPlaces (passes : Passes rules outermost places) :
    (turns mode rules outermost (plainPlaces places)).map Rendering.warnings =
      (turns mode rules outermost places).map Rendering.warnings := by
  induction places with
  | nil => rfl
  | cons place rest ih =>
      have later := ih passes.tail
      cases style : place.isStyle with
      | true =>
          rw [plainPlaces_cons_of_style style]
          cases reached : outermost.along rules place.path with
          | error reason =>
              obtain ⟨next, more, plain, fails⟩ := passes [] place rest rfl style reason reached
              rw [plain, turns_cons_of_error fails, turns_cons_of_error reached]
          | ok inside =>
              rw [later, warnings_turns_cons, turn_style style reached]
              cases turns mode rules outermost rest <;> rfl
      | false =>
          rw [plainPlaces_cons_of_plain style, warnings_turns_cons, warnings_turns_cons, later]

end Drawing

namespace Document

open Drawing
open Markup (Element Node Place plainPlaces)

variable {document : Document} {mode : Path.Mode} {outermost : Context} {tools : Tools}

/-- Whether each style element sets only colors that can be read, if those around it do. -/
def StylesReadable (document : Document) : Prop :=
  ∀ place ∈ document.root.places, place.isStyle = true →
    Colored document.rules (document.root.element :: place.around) →
      Colored document.rules (document.root.element :: place.path)

/-- A document whose scope is that of its root, and whose style elements contain no elements. -/
structure Sound (document : Document) : Prop where
  rooted : document.scope = Scope.overlay .empty document.root.attributes
  leaves : Node.StylesAreLeaves document.root.preorder

theorem along_succeeds
    (rooted : document.scope = Scope.overlay .empty document.root.attributes)
    (entered : document.outermost = .ok outermost) (path : List Element) :
    (∃ inside, outermost.along document.rules path = .ok inside) ↔
      Colored document.rules (document.root.element :: path) := by
  rw [outermost_along rooted entered]
  exact Context.along_succeeds rfl _

theorem StylesReadable.passes (readable : document.StylesReadable) (sound : document.Sound)
    (entered : document.outermost = .ok outermost) :
    Passes document.rules outermost document.root.places := by
  intro front place back split style reason fails
  have member : place ∈ document.root.places := split ▸ List.mem_append_right _ List.mem_cons_self
  cases around : outermost.along document.rules place.around with
  | ok inner =>
      have colored := readable place member style
        ((along_succeeds sound.rooted entered _).mp ⟨inner, around⟩)
      obtain ⟨inside, reached⟩ := (along_succeeds sound.rooted entered _).mpr colored
      rw [fails] at reached
      cases reached
  | error other =>
      have inner : place.around ≠ [] := by
        intro none
        rw [none] at around
        cases around
      obtain rfl : other = reason :=
        Except.error.inj ((Context.along_eq_error around (List.prefix_append _ _)).symm.trans fails)
      obtain ⟨next, more, plain, inside⟩ := Node.nextIn_of_places sound.leaves split style inner
      exact ⟨next, more, plain, Context.along_eq_error around inside⟩

theorem stylesReadable_of_rendering
    (rooted : document.scope = Scope.overlay .empty document.root.attributes) {drawn : Rendering}
    (found : document.rendering mode = .ok drawn) : document.StylesReadable := by
  intro place member _ _
  exact ((rendering_succeeds rooted mode).mp ⟨drawn, found⟩).colors place.path
    (List.mem_cons_of_mem _ (List.mem_map_of_mem member))

/-- The attributes on which it may depend what colors an element sets, and whether these can be
read. -/
def coloring : List String := ["fill", "stroke", "color"] ++ Style.selecting

/-- An element without such attributes sets the colors that are declared around it, if any. -/
theorem colored_of_plain {rules : Style.Rules} {lineage : List Element} {element : Element}
    (inside : lineage ≠ []) (colored : Colored rules lineage)
    (plain : ∀ name ∈ coloring, (Attributes.normalizedTexts element.attributes).get? name = none) :
    Colored rules (lineage ++ [element]) := by
  refine (colored_snoc _ _).mpr ⟨colored, fun part text set => ?_⟩
  obtain ⟨outer, last, rfl⟩ : ∃ outer last, lineage = outer ++ [last] :=
    ⟨_, _, (List.dropLast_concat_getLast inside).symm⟩
  have around := ((colored_snoc _ _).mp colored).2 part text
  have same {name : String} (among : name ∈ coloring) :
      (scopeThrough (outer ++ [last] ++ [element])).get? name =
        (scopeThrough (outer ++ [last])).get? name := by
    rw [scopeThrough, List.foldl_append, ← scopeThrough, List.foldl_cons, List.foldl_nil,
      Scope.get?_overlay, Attributes.normalizedTexts_normalizedTexts, plain name among]
    rfl
  have declared : Style.appliedDeclarations (scopeThrough (outer ++ [last] ++ [element])) rules =
      Style.appliedDeclarations (scopeThrough (outer ++ [last])) rules :=
    Style.appliedDeclarations_congr fun name among => same (List.mem_append_right _ among)
  have none : (Attributes.normalizedTexts element.attributes).get? part.property = none :=
    plain _ (by cases part <;> decide)
  have color : Style.colorText (scopeThrough (outer ++ [last] ++ [element])) text =
      Style.colorText (scopeThrough (outer ++ [last])) text := by
    rw [Style.colorText, Style.colorText, Bindings.getD, Bindings.getD, same (by decide)]
  rw [Style.setting?, declared, none, Option.or_none] at set
  rw [color]
  exact around (by rw [Style.setting?, set, Option.some_or])

theorem stylesReadable_of_plain
    (plain : ∀ place ∈ document.root.places, place.isStyle = true → ∀ name ∈ coloring,
      (Attributes.normalizedTexts place.element.attributes).get? name = none) :
    document.StylesReadable :=
  fun place member style colored =>
    colored_of_plain (List.cons_ne_nil _ _) colored (plain place member style)

/-- What would be asked of the canvas if the style elements were left out, but not what they say. -/
def issuedPlain (document : Document) (mode : Path.Mode) : List Issued :=
  match document.outermost with
  | .error _ => []
  | .ok outermost =>
    Drawing.issued mode document.rules outermost document.root.unstyled.places

/-- The outcome of drawing if the style elements were left out. -/
def outcomePlain (document : Document) (mode : Path.Mode) : Except Fault (List Path.Warning) :=
  document.outermost.bind fun outermost =>
    (turns mode document.rules outermost document.root.unstyled.places).map Rendering.warnings

theorem madeWith_issued_upTo (tools : Tools) (mode : Path.Mode)
    (leaves : Node.StylesAreLeaves document.root.preorder) :
    madeWith tools ((document.issued mode).map Issued.call) <+:
      madeWith tools ((document.issuedPlain mode).map Issued.call) := by
  unfold Document.issued issuedPlain
  cases document.outermost with
  | error reason => exact List.prefix_rfl
  | ok outermost =>
      dsimp only
      rw [Node.places_unstyled leaves, ← madeWith_plainIssued]
      exact madeWith_upTo ((plainIssued_upTo document.root.places).map Issued.call)

theorem StylesReadable.madeWith_issued (readable : document.StylesReadable)
    (sound : document.Sound) :
    madeWith tools ((document.issued mode).map Issued.call) =
      madeWith tools ((document.issuedPlain mode).map Issued.call) := by
  unfold Document.issued issuedPlain
  cases entered : document.outermost with
  | error reason => rfl
  | ok outermost =>
      dsimp only
      rw [Node.places_unstyled sound.leaves, issued_plainPlaces (readable.passes sound entered),
        madeWith_plainIssued]

theorem StylesReadable.outcome (readable : document.StylesReadable) (sound : document.Sound) :
    (document.rendering mode).map Rendering.warnings = document.outcomePlain mode := by
  rw [rendering_eq_drawAll, outcomePlain]
  cases entered : document.outermost with
  | error reason => rfl
  | ok outermost =>
      change (drawAll mode document.rules outermost.scope outermost.paint
        document.root.children).map Rendering.warnings = Except.map _ (turns _ _ _ _)
      rw [drawAll_children_eq_turns, Node.places_unstyled sound.leaves,
        turns_plainPlaces (readable.passes sound entered)]

theorem pictureIn_eq_map (typeface : Typeface Float) (document : Document) (options : Options) :
    document.pictureIn typeface options = (document.canvas options).bind fun canvas =>
      (document.rendering options.mode).map fun drawn =>
        (canvas.performAll typeface drawn.calls).picture := by
  rw [pictureIn]
  cases document.canvas options with
  | error reason => rfl
  | ok canvas => cases document.rendering options.mode <;> rfl

theorem pictureIn_congr {document other : Document} {options : Options}
    (sized : document.canvas options = other.canvas options)
    (outcome : (document.rendering options.mode).map Rendering.warnings =
      (other.rendering options.mode).map Rendering.warnings)
    (made : ∀ tools, madeWith tools ((document.issued options.mode).map Issued.call) =
      madeWith tools ((other.issued options.mode).map Issued.call)) (typeface : Typeface Float) :
    document.pictureIn typeface options = other.pictureIn typeface options := by
  rw [pictureIn_eq_map, pictureIn_eq_map, sized]
  refine congrArg (Except.bind (other.canvas options)) (funext fun canvas => ?_)
  cases drew : document.rendering options.mode with
  | error reason =>
      cases drew' : other.rendering options.mode with
      | error reason' =>
          rw [drew, drew'] at outcome
          obtain rfl : reason = reason' := Except.error.inj outcome
          rfl
      | ok drawn => rw [drew, drew'] at outcome; cases outcome
  | ok drawn =>
      cases drew' : other.rendering options.mode with
      | error reason => rw [drew, drew'] at outcome; cases outcome
      | ok drawn' =>
          have made := made canvas.tools
          rw [issued_of_rendering drew, issued_of_rendering drew'] at made
          exact congrArg Except.ok (Canvas.picture_performAll_congr made)

/-- The same document, except for where its style elements stand. -/
structure Restyled (document other : Document) : Prop where
  scope : other.scope = document.scope
  viewBox : other.viewBox = document.viewBox
  unstyled : other.root.unstyled = document.root.unstyled
  sheets : other.root.sheets = document.root.sheets

namespace Restyled

variable {other : Document}

theorem rules_eq (restyled : Restyled document other) : other.rules = document.rules :=
  congrArg Style.Rules.ofSheets restyled.sheets

theorem outermost_eq (restyled : Restyled document other) :
    other.outermost = document.outermost := by
  have attributes := Node.attributes_of_unstyled restyled.unstyled
  rw [Document.outermost, Document.outermost, attributes, restyled.rules_eq, restyled.scope]

theorem issuedPlain_eq (restyled : Restyled document other) :
    other.issuedPlain mode = document.issuedPlain mode := by
  unfold issuedPlain
  rw [restyled.outermost_eq, restyled.rules_eq, restyled.unstyled]

theorem outcomePlain_eq (restyled : Restyled document other) :
    other.outcomePlain mode = document.outcomePlain mode := by
  rw [outcomePlain, outcomePlain, restyled.outermost_eq, restyled.rules_eq, restyled.unstyled]

theorem canvas_eq (restyled : Restyled document other) (options : Options) :
    other.canvas options = document.canvas options := by
  rw [Document.canvas, Document.canvas, width, width, height, height, restyled.viewBox]

/-- What is asked of the canvas for one document is the beginning of what is for the other. -/
theorem madeWith_upTo (restyled : Restyled document other)
    (leaves : Node.StylesAreLeaves document.root.preorder)
    (leaves' : Node.StylesAreLeaves other.root.preorder) :
    let made (document : Document) := madeWith tools ((document.issued mode).map Issued.call)
    made document <+: made other ∨ made other <+: made document := by
  have front := madeWith_issued_upTo tools mode leaves'
  rw [restyled.issuedPlain_eq] at front
  exact List.prefix_or_prefix_of_prefix (madeWith_issued_upTo tools mode leaves) front

variable (restyled : Restyled document other) (sound : document.Sound) (sound' : other.Sound)

include restyled sound sound'

theorem outcome_eq (readable : document.StylesReadable) (readable' : other.StylesReadable)
    (mode : Path.Mode) : (other.rendering mode).map Rendering.warnings =
      (document.rendering mode).map Rendering.warnings := by
  rw [readable'.outcome sound', readable.outcome sound, restyled.outcomePlain_eq]

theorem madeWith_eq (readable : document.StylesReadable) (readable' : other.StylesReadable)
    (tools : Tools) (mode : Path.Mode) :
    madeWith tools ((other.issued mode).map Issued.call) =
      madeWith tools ((document.issued mode).map Issued.call) := by
  rw [readable'.madeWith_issued sound', readable.madeWith_issued sound, restyled.issuedPlain_eq]

theorem rendering_succeeds_iff {drawn : Rendering} (drew : document.rendering mode = .ok drawn) :
    (∃ more, other.rendering mode = .ok more) ↔ other.StylesReadable := by
  constructor
  · rintro ⟨more, drew'⟩
    exact stylesReadable_of_rendering sound'.rooted drew'
  · intro readable'
    have readable := stylesReadable_of_rendering sound.rooted drew
    have agrees := restyled.outcome_eq sound sound' readable readable' mode
    rw [drew] at agrees
    cases drew' : other.rendering mode with
    | error reason => rw [drew'] at agrees; cases agrees
    | ok more => exact ⟨more, rfl⟩

end Restyled

theorem ofTree_unstyled {first second : Node} (same : first.unstyled = second.unstyled) :
    ofTree second = (ofTree first).map fun document => { document with root := second } := by
  rw [ofTree, ofTree, Node.attributes_of_unstyled same]
  cases ViewBox.ofAttribute ((Scope.overlay .empty second.attributes).get? "viewbox") <;> rfl

/-- Two trees that are the same without their style elements, and whose style elements say the same
in order. Of the calls made for them, leave out those that set the width of strokes. What is left
for one tree is the beginning of what is left for the other, each call with the same tools. It is
the same, and so are the outcome and the picture, if each style element sets only colors that can be
read where those around it do; one without attributes for colors sets no others. If one tree is
drawn to the end, the other is exactly if that holds for its own style elements. -/
theorem restyled_drawing {first second : Node}
    (leaves : Node.StylesAreLeaves first.preorder) (leaves' : Node.StylesAreLeaves second.preorder)
    (same : first.unstyled = second.unstyled) (sheets : first.sheets = second.sheets) :
    ofTree second = (ofTree first).map (fun document => { document with root := second }) ∧
    ∀ document other, ofTree first = .ok document → ofTree second = .ok other →
      let made (tools : Tools) (document : Document) (mode : Path.Mode) :=
        madeWith tools ((document.issued mode).map Issued.call)
      (∀ tools mode, made tools document mode <+: made tools other mode ∨
        made tools other mode <+: made tools document mode) ∧
      (∀ mode drawn, document.rendering mode = .ok drawn →
        ((∃ more, other.rendering mode = .ok more) ↔ other.StylesReadable)) ∧
      (document.StylesReadable → other.StylesReadable →
        (∀ tools mode, made tools other mode = made tools document mode) ∧
        (∀ mode, (other.rendering mode).map Rendering.warnings =
          (document.rendering mode).map Rendering.warnings) ∧
        ∀ typeface options,
          other.pictureIn typeface options = document.pictureIn typeface options) ∧
      ((∀ place ∈ first.places, place.isStyle = true → ∀ name ∈ coloring,
          (Attributes.normalizedTexts place.element.attributes).get? name = none) →
        document.StylesReadable) := by
  refine ⟨ofTree_unstyled same, fun document other found found' => ?_⟩
  have moved := ofTree_unstyled same
  rw [found, found'] at moved
  obtain rfl : other = { document with root := second } := Except.ok.inj moved
  obtain ⟨rooted, rfl⟩ := ofTree_eq_ok found
  obtain ⟨rooted', _⟩ := ofTree_eq_ok found'
  have restyled : Restyled document { document with root := second } :=
    ⟨rfl, rfl, same.symm, sheets.symm⟩
  have sound : document.Sound := ⟨rooted, leaves⟩
  have sound' : ({ document with root := second } : Document).Sound := ⟨rooted', leaves'⟩
  refine ⟨fun _ _ => restyled.madeWith_upTo leaves leaves',
    fun _ _ => restyled.rendering_succeeds_iff sound sound', fun readable readable' => ?_,
    stylesReadable_of_plain⟩
  have made := restyled.madeWith_eq sound sound' readable readable'
  have outcome := restyled.outcome_eq sound sound' readable readable'
  exact ⟨made, outcome, fun typeface options =>
    pictureIn_congr (restyled.canvas_eq options) (outcome _) (fun tools => made tools _) typeface⟩

/-- A square of a class in a group, with other nodes before the group and behind the square. -/
def scene (before behind : List Node) : Node :=
  .mk ⟨"svg", ⟨[("viewBox", "0 0 2 1")]⟩⟩ "" (before ++ [.mk ⟨"g", .empty⟩ ""
    (.mk ⟨"rect", ⟨[("class", "a"), ("width", "1"), ("height", "1")]⟩⟩ "" [] :: behind)])

def styleWith (attributes : Bindings String) (text : String) : Node :=
  .mk ⟨"style", attributes⟩ text []

theorem leaves_scene (attributes : Bindings String) (text : String) :
    Node.StylesAreLeaves (scene [styleWith attributes text] []).preorder ∧
      Node.StylesAreLeaves (scene [] [styleWith attributes text]).preorder := by
  simp [Node.StylesAreLeaves, scene, styleWith, Node.preorder, Node.preorderAll, Node.children,
    Node.isStyle, Node.name, Node.element]

def sheet : Node := styleWith ⟨[("type", "text/css")]⟩ ".a\x7bfill:red\x7d"

theorem restyled_drawing_scene : ∃ document other picture,
    ofTree (scene [sheet] []) = .ok document ∧ ofTree (scene [] [sheet]) = .ok other ∧
    document.StylesReadable ∧ other.StylesReadable ∧
    madeWith ⟨1, true⟩ ((other.issued .continuous).map Issued.call) =
      madeWith ⟨1, true⟩ ((document.issued .continuous).map Issued.call) ∧
    document.pictureIn .invisible onWhite = .ok picture ∧
    other.pictureIn .invisible onWhite = .ok picture ∧
    picture.pixel? 0 0 = some ⟨255, 0, 0, 255⟩ := by
  obtain ⟨leaves, leaves'⟩ := leaves_scene ⟨[("type", "text/css")]⟩ ".a\x7bfill:red\x7d"
  have colorless : ((scene [sheet] []).places.all fun place => !place.isStyle || coloring.all
      fun name => ((Attributes.normalizedTexts place.element.attributes).get? name).isNone) =
        true := by
    decide +kernel
  have facts : ((ofTree (scene [sheet] [])).toOption.bind fun document =>
      (ofTree (scene [] [sheet])).toOption.bind fun other =>
        (document.rendering .continuous).toOption.bind fun _ =>
          (other.rendering .continuous).toOption.bind fun _ =>
            (document.pictureIn .invisible onWhite).toOption.bind fun picture =>
              picture.pixel? 0 0) = some ⟨255, 0, 0, 255⟩ := by
    decide +kernel
  obtain ⟨document, found, facts⟩ := toOption_bind_eq_some facts
  obtain ⟨other, found', facts⟩ := toOption_bind_eq_some facts
  obtain ⟨drawn, drew, facts⟩ := toOption_bind_eq_some facts
  obtain ⟨drawn', drew', facts⟩ := toOption_bind_eq_some facts
  obtain ⟨picture, pictured, red⟩ := toOption_bind_eq_some facts
  obtain ⟨_, drawings⟩ := restyled_drawing leaves leaves' rfl rfl
  obtain ⟨_, succeeds, agree, plain⟩ := drawings document other found found'
  have readable : document.StylesReadable := plain fun place member style name among => by
    have checked := List.all_eq_true.mp colorless place member
    rw [style] at checked
    simpa using List.all_eq_true.mp checked name among
  have readable' := (succeeds .continuous drawn drew).mp ⟨drawn', drew'⟩
  obtain ⟨made, _, pictures⟩ := agree readable readable'
  exact ⟨document, other, picture, found, found', readable, readable', made _ _, pictured,
    (pictures _ _).trans pictured, red⟩

def idle : Node := styleWith .empty ""

/-- A style element that sets an infinite color, but for nothing else. -/
def blinding : Node := styleWith ⟨[("fill", "rgb(inf,0,0)")]⟩ ""

/-- It stops the drawing before anything is drawn. -/
theorem restyled_drawing_blinding :
    Node.StylesAreLeaves (scene [blinding] []).preorder ∧
    Node.StylesAreLeaves (scene [idle] []).preorder ∧
    (scene [blinding] []).unstyled = (scene [idle] []).unstyled ∧
    (scene [blinding] []).sheets = (scene [idle] []).sheets ∧
    ∃ document other drawn, ofTree (scene [blinding] []) = .ok document ∧
      ofTree (scene [idle] []) = .ok other ∧
      document.rendering .continuous = .error .tooLarge ∧
      madeWith ⟨1, true⟩ ((document.issued .continuous).map Issued.call) = [] ∧
      other.rendering .continuous = .ok drawn ∧
      madeWith ⟨1, true⟩ ((other.issued .continuous).map Issued.call) ≠ [] := by
  have facts : ((ofTree (scene [blinding] [])).toOption.bind fun document =>
      (ofTree (scene [idle] [])).toOption.bind fun other =>
        (other.rendering .continuous).toOption.bind fun _ =>
          some (decide ((document.rendering .continuous).map Rendering.count = .error .tooLarge),
            (madeWith ⟨1, true⟩ ((document.issued .continuous).map Issued.call)).isEmpty,
            (madeWith ⟨1, true⟩ ((other.issued .continuous).map Issued.call)).isEmpty)) =
        some (true, true, false) := by
    decide +kernel
  obtain ⟨document, found, facts⟩ := toOption_bind_eq_some facts
  obtain ⟨other, found', facts⟩ := toOption_bind_eq_some facts
  obtain ⟨drawn, drew, facts⟩ := toOption_bind_eq_some facts
  simp only [Option.some.injEq, Prod.mk.injEq, decide_eq_true_eq, List.isEmpty_iff,
    List.isEmpty_eq_false_iff] at facts
  obtain ⟨stops, nothing, something⟩ := facts
  refine ⟨(leaves_scene _ _).1, (leaves_scene _ _).1, rfl, rfl, document, other, drawn, found,
    found', ?_, nothing, drew, something⟩
  cases stopped : document.rendering .continuous with
  | error reason => rw [stopped] at stops; exact congrArg _ (Except.error.inj stops)
  | ok drawn => rw [stopped] at stops; cases stops

end Document

end Vignette
