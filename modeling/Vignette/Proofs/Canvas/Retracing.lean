import Vignette.Canvas.Basic
import Vignette.Proofs.Binary64.Numbers
import Vignette.Proofs.Canvas.Polygons
import Vignette.Proofs.Path.Closing

namespace Vignette

/-! Polygons written down in another way: begun at another vertex, closed by hand, or with a vertex
said more than once. They are filled alike, to the last bit. The edges that such a list adds do not
rise, so that no ray crosses them, and the bounds are found among the same coordinates. A closepath
at the end of a path closes its last subpath by hand. -/

open Binary64

namespace Shape

variable {α : Type} {vertices other : List (Point α)}

/-- The same polygon, written down in another way. -/
inductive Retraced : List (Point α) → List (Point α) → Prop
  | turned (front back : List (Point α)) : Retraced (front ++ back) (back ++ front)
  | closed (first : Point α) (rest : List (Point α)) :
    Retraced (first :: rest) (first :: rest ++ [first])
  | repeated (front back : List (Point α)) (vertex : Point α) (count : Nat) :
    Retraced (front ++ vertex :: back) (front ++ List.replicate (count + 1) vertex ++ back)
  | trans {vertices middle other : List (Point α)} (first : Retraced vertices middle)
    (second : Retraced middle other) : Retraced vertices other

theorem Retraced.mem_iff (retraced : Retraced vertices other) (p : Point α) :
    p ∈ other ↔ p ∈ vertices := by
  induction retraced with
  | turned front back => simp only [List.mem_append, Or.comm]
  | closed first rest =>
      rw [List.mem_append, List.mem_singleton]
      exact or_iff_left_of_imp fun same => same ▸ List.mem_cons_self
  | repeated front back vertex count =>
      simp only [List.mem_append, List.mem_replicate, List.mem_cons, ne_eq, Nat.add_one_ne_zero,
        not_false_eq_true, true_and, or_assoc]
  | trans _ _ ih ih' => exact ih'.trans ih

theorem Retraced.length_le (retraced : Retraced vertices other) :
    vertices.length ≤ other.length := by
  induction retraced with
  | turned front back => rw [List.length_append, List.length_append, Nat.add_comm]
  | closed first rest => rw [List.length_append]; exact Nat.le_add_right _ _
  | repeated front back vertex count =>
      simp only [List.length_append, List.length_replicate, List.length_cons]
      omega
  | trans _ _ ih ih' => exact ih.trans ih'

variable [Scalar α]

section Crossings

variable (front back : List (Point α)) (vertex point : Point α)

theorem crossings_turned :
    crossings (back ++ front) point = crossings (front ++ back) point :=
  (edges_perm front back).countP_eq _

theorem crossings_double (rest : List (Point α)) :
    crossings (vertex :: vertex :: rest) point = crossings (vertex :: rest) point := by
  rw [crossings, edges_double, List.countP_cons, crosses_self]
  rfl

theorem crossings_replicate (count : Nat) (rest : List (Point α)) :
    crossings (List.replicate (count + 1) vertex ++ rest) point =
      crossings (vertex :: rest) point := by
  induction count with
  | zero => rfl
  | succ count ih => exact (crossings_double vertex point _).trans ih

end Crossings

theorem Retraced.crossings_eq (retraced : Retraced vertices other) (point : Point α) :
    crossings other point = crossings vertices point := by
  induction retraced with
  | turned front back => exact crossings_turned front back point
  | closed first rest =>
      calc crossings (first :: rest ++ [first]) point
          = crossings ([first] ++ first :: rest) point := crossings_turned _ _ point
        _ = crossings (first :: rest) point := crossings_double first point rest
  | repeated front back vertex count =>
      calc crossings (front ++ List.replicate (count + 1) vertex ++ back) point
          = crossings (List.replicate (count + 1) vertex ++ (back ++ front)) point := by
            rw [← List.append_assoc, ← crossings_turned _ front, List.append_assoc]
        _ = crossings (vertex :: back ++ front) point := crossings_replicate vertex point count _
        _ = crossings (front ++ vertex :: back) point := crossings_turned _ _ point
  | trans _ _ ih ih' => exact ih'.trans ih

theorem Retraced.insidePolygon_eq (retraced : Retraced vertices other) :
    (fun point => indicator (α := α) (insidePolygon (edges other) point)) =
      fun point => indicator (insidePolygon (edges vertices) point) := by
  funext point
  rw [Shape.insidePolygon_eq, Shape.insidePolygon_eq, retraced.crossings_eq]

/-! ### Bounds -/

/-- The fraction that a floating point number stands for. -/
def fraction (x : Float) : ℚ := value x.toModel.unpack

theorem lt_iff_fraction {x y : Float} (finite : Scalar.isFinite x = true)
    (finite' : Scalar.isFinite y = true) : Scalar.lt x y = true ↔ fraction x < fraction y :=
  decide_eq_true_iff.trans
    ((represents_of_isFinite finite).lt_iff (represents_of_isFinite finite'))

/-- Two bounds for which painting looks at the same pixels: a zero may have either sign. -/
def SameBound (x y : Float) : Prop := ∃ v, Represents x v ∧ Represents y v

theorem SameBound.of_foremost {β : Type} [LinearOrder β] {order : ℚ → β}
    (injective : Function.Injective order) {xs ys : List Float} {x y : Float}
    (finite : ∀ z ∈ xs, z.isFinite = true) (same : ∀ z, z ∈ ys ↔ z ∈ xs)
    (found : Foremost (order ∘ fraction) xs x) (found' : Foremost (order ∘ fraction) ys y) :
    SameBound x y := by
  have equal : fraction y = fraction x := injective (found.value_eq found' same)
  have given := represents_of_isFinite (finite y ((same y).mp found'.1))
  exact ⟨fraction x, represents_of_isFinite (finite x found.1), equal ▸ given⟩

/-- A shape that covers the same as another one, within the same bounds. -/
structure PaintsLike (other shape : Shape Float) : Prop where
  coverage : other.coverage = shape.coverage
  minX : SameBound shape.minX other.minX
  minY : SameBound shape.minY other.minY
  maxX : SameBound shape.maxX other.maxX
  maxY : SameBound shape.maxY other.maxY

theorem Retraced.all_isFinite {vertices other : List (Point Float)}
    (retraced : Retraced vertices other) :
    other.all Point.isFinite = vertices.all Point.isFinite := by
  rw [Bool.eq_iff_iff, List.all_eq_true, List.all_eq_true]
  exact forall_congr' fun p => imp_congr_left (retraced.mem_iff p)

theorem Retraced.paintsLike {vertices other : List (Point Float)}
    (retraced : Retraced vertices other) (long : 3 ≤ vertices.length)
    (finite : vertices.all Point.isFinite = true) :
    ∃ shape shape', polygon? vertices = some shape ∧ polygon? other = some shape' ∧
      shape'.PaintsLike shape := by
  obtain ⟨shape, found, encloses⟩ := polygon?_encloses lt_iff_fraction long finite
  obtain ⟨shape', found', encloses'⟩ := polygon?_encloses lt_iff_fraction
    (long.trans retraced.length_le) (retraced.all_isFinite.trans finite)
  have members (coordinate : Point Float → Float) (z : Float) :
      z ∈ other.map coordinate ↔ z ∈ vertices.map coordinate := by
    simp only [List.mem_map, retraced.mem_iff]
  have finiteX : ∀ z ∈ vertices.map Point.x, z.isFinite = true := List.forall_mem_map.mpr
    fun p member => (Bool.and_eq_true_iff.mp (List.all_eq_true.mp finite p member)).1
  have finiteY : ∀ z ∈ vertices.map Point.y, z.isFinite = true := List.forall_mem_map.mpr
    fun p member => (Bool.and_eq_true_iff.mp (List.all_eq_true.mp finite p member)).2
  have direct : Function.Injective (id : ℚ → ℚ) := Function.injective_id
  have reversed : Function.Injective (OrderDual.toDual : ℚ → ℚᵒᵈ) := OrderDual.toDual.injective
  refine ⟨shape, shape', found, found', ?_, ?_, ?_, ?_, ?_⟩
  · rw [encloses.coverage, encloses'.coverage, retraced.insidePolygon_eq]
  · exact .of_foremost direct finiteX (members _) encloses.minX encloses'.minX
  · exact .of_foremost direct finiteY (members _) encloses.minY encloses'.minY
  · exact .of_foremost reversed finiteX (members _) encloses.maxX encloses'.maxX
  · exact .of_foremost reversed finiteY (members _) encloses.maxY encloses'.maxY

theorem Retraced.polygon?_eq_none {vertices other : List (Point Float)}
    (retraced : Retraced vertices other) (infinite : vertices.all Point.isFinite = false) :
    polygon? vertices = none ∧ polygon? other = none :=
  ⟨polygon?_of_not_finite infinite,
    polygon?_of_not_finite (retraced.all_isFinite.trans infinite)⟩

end Shape

/-! ### Painting -/

namespace Canvas

open Shape (PaintsLike Retraced SameBound)

variable {canvas : Canvas} {shape other : Shape Float} {typeface : Typeface Float}
  {vertices : List (Point Float)}

theorem window?_eq (alike : other.PaintsLike shape) :
    canvas.window? other = canvas.window? shape := by
  have known {x : Float} {v : ℚ} (given : Represents x v) : Scalar.isFinite x = true :=
    isFinite_of_canonical given.1
  obtain ⟨-, ⟨_, left, left'⟩, ⟨_, top, top'⟩, ⟨_, right, right'⟩, ⟨_, bottom, bottom'⟩⟩ := alike
  simp only [window?, known left, known left', known top, known top', known right, known right',
    known bottom, known bottom', left.floor, left'.floor, top.floor, top'.floor, right.ceil,
    right'.ceil, bottom.ceil, bottom'.ceil]

theorem paint_eq (alike : other.PaintsLike shape) (color : Color) :
    canvas.paint other color = canvas.paint shape color := by
  rw [paint, paint, window?_eq alike, alike.coverage]

theorem performChecked_fillPolygon {other : List (Point Float)}
    (retraced : Retraced vertices other) (long : 3 ≤ vertices.length) (color : Color) :
    canvas.performChecked typeface (.fillPolygon other color) =
      canvas.performChecked typeface (.fillPolygon vertices color) := by
  simp only [performChecked, painting?]
  cases finite : vertices.all Point.isFinite with
  | false =>
      obtain ⟨nothing, nothing'⟩ := retraced.polygon?_eq_none finite
      rw [nothing, nothing']
  | true =>
      obtain ⟨shape, shape', found, found', alike⟩ := retraced.paintsLike long finite
      have accepted : canvas.accepts [shape'] color = canvas.accepts [shape] color := by
        rw [accepts, accepts, List.all_cons, List.all_cons, window?_eq alike]
      have painted : canvas.paintAll [shape'] color = canvas.paintAll [shape] color :=
        paint_eq alike color
      rw [found, found', Option.toList_some, Option.toList_some, accepted, painted]

open Vignette.Path (Closes Kind Lexeme flattenLexemes_closed flattenTokens runLexemes)

/-- The first vertex of a list may be said again at its end. -/
theorem retraced_closed {vertices : List (Point Float)} (nonempty : vertices ≠ []) :
    Retraced vertices (vertices ++ vertices.take 1) := by
  cases vertices with
  | nil => contradiction
  | cons first rest => exact .closed first rest

theorem closes_of_mem {word : String} (member : word ∈ ["z", "Z"]) :
    Lexeme.ofToken word = .word word ∧
      ∃ relative, Kind.ofWord? word = some (.closePath, relative) := by
  rcases List.mem_cons.mp member with rfl | rest
  · exact ⟨rfl, true, rfl⟩
  · rw [List.mem_singleton.mp rest]
    exact ⟨rfl, false, rfl⟩

/-- A polygon is filled in the same way however it is written down. So it does not matter either
whether the last subpath of a path is closed: a closepath adds to it the vertex where it began. -/
theorem fillPolygon_retraced (canvas : Canvas) (typeface : Typeface Float) (color : Color) :
    (∀ vertices other, Retraced vertices other → 3 ≤ vertices.length →
      canvas.performChecked typeface (.fillPolygon other color) =
        canvas.performChecked typeface (.fillPolygon vertices color)) ∧
    ∀ mode tokens word whole, word ∈ ["z", "Z"] → flattenTokens mode tokens = .ok whole →
      let subpath := (runLexemes mode (tokens.map Lexeme.ofToken)).pen.subpath
      (∃ closed, flattenTokens mode (tokens ++ [word]) = .ok closed ∧
        Closes mode subpath whole.sequences closed.sequences) ∧
      (3 ≤ subpath.length →
        canvas.performChecked typeface (.fillPolygon (subpath ++ subpath.take 1) color) =
          canvas.performChecked typeface (.fillPolygon subpath color)) := by
  refine ⟨fun vertices other retraced long => performChecked_fillPolygon retraced long color, ?_⟩
  intro mode tokens word whole member flattened subpath
  obtain ⟨token, relative, closes⟩ := closes_of_mem member
  constructor
  · rw [flattenTokens, List.map_append, List.map_singleton, token]
    exact flattenLexemes_closed closes flattened
  · intro long
    have nonempty : subpath ≠ [] := by
      intro empty
      rw [empty] at long
      contradiction
    exact performChecked_fillPolygon (retraced_closed nonempty) long color

def wedge : List (Point Float) := [⟨0, 0⟩, ⟨4, 0⟩, ⟨0, 4⟩]

def wedgeTokens : List String := ["M", "0", "0", "L", "4", "0", "0", "4"]

theorem fillPolygon_retraced_wedge :
    let canvas := blank 5 5 ⟨0, 0, 0, 0⟩ true
    let fill := fun vertices : List (Point Float) =>
      canvas.performChecked .invisible (.fillPolygon vertices .black)
    fill [⟨4, 0⟩, ⟨0, 4⟩, ⟨0, 0⟩, ⟨4, 0⟩] = fill wedge ∧
      flattenTokens .discontinuous wedgeTokens = .ok ⟨[wedge], none⟩ ∧
      (∃ closed, flattenTokens .discontinuous (wedgeTokens ++ ["Z"]) = .ok closed ∧
        Closes .discontinuous wedge [wedge] closed.sequences) ∧
      fill (wedge ++ wedge.take 1) = fill wedge := by
  have flattened : flattenTokens .discontinuous wedgeTokens = .ok ⟨[wedge], none⟩ := rfl
  have subpath : (runLexemes .discontinuous (wedgeTokens.map Lexeme.ofToken)).pen.subpath =
      wedge := rfl
  have retraced : Retraced wedge [⟨4, 0⟩, ⟨0, 4⟩, ⟨0, 0⟩, ⟨4, 0⟩] :=
    .trans (.turned [⟨0, 0⟩] [⟨4, 0⟩, ⟨0, 4⟩]) (.closed ⟨4, 0⟩ [⟨0, 4⟩, ⟨0, 0⟩])
  have long : 3 ≤ wedge.length := le_rfl
  obtain ⟨alike, closing⟩ :=
    fillPolygon_retraced (blank 5 5 ⟨0, 0, 0, 0⟩ true) .invisible .black
  have closed := closing .discontinuous wedgeTokens "Z" _ (by simp) flattened
  rw [subpath] at closed
  exact ⟨alike _ _ retraced long, flattened, closed.1, closed.2 long⟩

end Canvas

end Vignette
