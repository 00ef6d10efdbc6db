import Mathlib.Tactic.FieldSimp
import Mathlib.Tactic.Linarith
import Vignette.Canvas.Basic
import Vignette.Proofs.Canvas.Polygons
import Vignette.Proofs.Geometry.Reals

namespace Vignette

/-! Painting looks at the pixels within the bounds of a shape only. In exact arithmetic no other
pixel is covered. For most shapes that is a matter of distances. A polygon is different: a ray from
the left of all its vertices does cross edges, but as many upwards as downwards. -/

open Scalar (ofInt)

namespace Shape

/-- Whether a shape covers nothing outside of its bounds. -/
def Bounded (shape : Shape ℝ) : Prop :=
  ∀ point, shape.coverage point ≠ 0 →
    (shape.minX ≤ point.x ∧ point.x ≤ shape.maxX) ∧ shape.minY ≤ point.y ∧ point.y ≤ shape.maxY

theorem indicator_ne_zero {inside : Bool} (covered : indicator inside ≠ (0 : ℝ)) :
    inside = true := by
  cases inside with
  | false => simp [indicator] at covered
  | true => rfl

/-! ### Polygons -/

/-- Whether an edge leads from one side of a row to the other. -/
noncomputable def meetsRow (row : ℝ) (edge : Point ℝ × Point ℝ) : Bool :=
  decide (row < edge.1.y) != decide (row < edge.2.y)

theorem bodd_meetsRow (vertices : List (Point ℝ)) (row : ℝ) :
    ((edges vertices).countP (meetsRow row)).bodd = false :=
  bodd_edges (fun p => decide (row < p.y)) vertices

/-- An edge is crossed if it meets the row of the point and does so to the right of it. -/
theorem crosses_real (point start finish : Point ℝ) :
    crosses point start finish = (meetsRow point.y (start, finish) &&
      decide (point.x < (finish.x - start.x) * (point.y - start.y) / (finish.y - start.y) +
        start.x)) := by
  by_cases level : start.y = finish.y
  · have same : meetsRow point.y (start, finish) = false := by simp [meetsRow, level]
    simp [crosses, level, same]
  · simp [crosses, level, meetsRow]

/-- An edge that meets a row does so between its ends. -/
theorem meeting_within {low high row : ℝ} {start finish : Point ℝ}
    (meets : meetsRow row (start, finish) = true) (first : low ≤ start.x ∧ start.x ≤ high)
    (second : low ≤ finish.x ∧ finish.x ≤ high) :
    let meeting := (finish.x - start.x) * (row - start.y) / (finish.y - start.y) + start.x
    low ≤ meeting ∧ meeting ≤ high := by
  intro meeting
  have part : 0 ≤ (row - start.y) / (finish.y - start.y) ∧
      (row - start.y) / (finish.y - start.y) ≤ 1 := by
    rw [meetsRow, bne_iff_ne, ne_eq, decide_eq_decide] at meets
    rcases lt_or_ge row start.y with above | notAbove
    · have below : finish.y ≤ row := not_lt.mp fun less => meets (iff_of_true above less)
      exact ⟨div_nonneg_of_nonpos (by linarith) (by linarith),
        div_le_one_of_ge (by linarith) (by linarith)⟩
    · have above : row < finish.y :=
        not_le.mp fun less => meets (iff_of_false (not_lt.mpr notAbove) (not_lt.mpr less))
      exact ⟨div_nonneg (by linarith) (by linarith), div_le_one_of_le₀ (by linarith) (by linarith)⟩
  have same : meeting =
      start.x + (row - start.y) / (finish.y - start.y) * (finish.x - start.x) := by ring
  rw [same]
  exact mix_within part.1 part.2 first second

theorem crossings_eq_zero {vertices : List (Point ℝ)} {point : Point ℝ}
    (none : ∀ edge ∈ edges vertices, crosses point edge.1 edge.2 = false) :
    crossings vertices point = 0 :=
  List.countP_eq_zero.mpr fun edge member => Bool.eq_false_iff.mp (none edge member)

theorem Encloses.within {vertices : List (Point ℝ)} {shape : Shape ℝ}
    (encloses : shape.Encloses id vertices) {p : Point ℝ} (member : p ∈ vertices) :
    (shape.minX ≤ p.x ∧ p.x ≤ shape.maxX) ∧ shape.minY ≤ p.y ∧ p.y ≤ shape.maxY :=
  ⟨⟨encloses.minX.2 _ (List.mem_map_of_mem member), encloses.maxX.2 _ (List.mem_map_of_mem member)⟩,
    encloses.minY.2 _ (List.mem_map_of_mem member), encloses.maxY.2 _ (List.mem_map_of_mem member)⟩

theorem Encloses.bounded {vertices : List (Point ℝ)} {shape : Shape ℝ}
    (encloses : shape.Encloses id vertices) : shape.Bounded := by
  intro point covered
  rw [encloses.coverage] at covered
  have odd : (crossings vertices point).bodd = true := by
    rw [← insidePolygon_eq]
    exact indicator_ne_zero covered
  have missed : ¬∀ edge ∈ edges vertices, crosses point edge.1 edge.2 = false := by
    intro none
    rw [crossings_eq_zero none, Nat.bodd_zero] at odd
    cases odd
  have ends (edge) (member : edge ∈ edges vertices) :=
    And.intro (encloses.within (mem_of_mem_edges member).1)
      (encloses.within (mem_of_mem_edges member).2)
  refine ⟨⟨?_, ?_⟩, ?_, ?_⟩
  · -- A point left of all vertices sees every edge that meets its row.
    by_contra left
    have all : ∀ edge ∈ edges vertices,
        crosses point edge.1 edge.2 = true ↔ meetsRow point.y edge = true := by
      intro edge member
      rw [crosses_real, Bool.and_eq_true]
      refine and_iff_left_of_imp fun meets => decide_eq_true ?_
      obtain ⟨⟨first, _⟩, ⟨second, _⟩⟩ := ends edge member
      exact (not_le.mp left).trans_le (meeting_within meets first second).1
    rw [crossings, List.countP_congr all, bodd_meetsRow] at odd
    cases odd
  · by_contra right
    refine missed fun edge member => ?_
    rw [crosses_real, Bool.and_eq_false_imp]
    intro meets
    obtain ⟨⟨first, _⟩, ⟨second, _⟩⟩ := ends edge member
    exact decide_eq_false
      (not_lt.mpr ((meeting_within meets first second).2.trans (not_le.mp right).le))
  · by_contra above
    refine missed fun edge member => ?_
    obtain ⟨⟨_, first⟩, ⟨_, second⟩⟩ := ends edge member
    have start : point.y < edge.1.y := (not_le.mp above).trans_le first.1
    have finish : point.y < edge.2.y := (not_le.mp above).trans_le second.1
    rw [crosses_real, meetsRow, decide_eq_true start, decide_eq_true finish]
    rfl
  · by_contra below
    refine missed fun edge member => ?_
    obtain ⟨⟨_, first⟩, ⟨_, second⟩⟩ := ends edge member
    have start : ¬point.y < edge.1.y := not_lt.mpr (first.2.trans (not_le.mp below).le)
    have finish : ¬point.y < edge.2.y := not_lt.mpr (second.2.trans (not_le.mp below).le)
    rw [crosses_real, meetsRow, decide_eq_false start, decide_eq_false finish]
    rfl

/-- All real vertices are finite, so three of them make a polygon. -/
theorem exists_polygon {vertices : List (Point ℝ)} (long : 3 ≤ vertices.length) :
    ∃ shape, polygon? vertices = some shape ∧ shape.Encloses id vertices := by
  have order {x y : ℝ} (_ : Scalar.isFinite x = true) (_ : Scalar.isFinite y = true) :
      Scalar.lt x y = true ↔ id x < id y := by simp
  exact polygon?_encloses order long (by simp [Point.isFinite])

theorem polygon_bounded {vertices : List (Point ℝ)} {shape : Shape ℝ}
    (found : polygon? vertices = some shape) : shape.Bounded := by
  have long : 3 ≤ vertices.length := by
    unfold polygon? at found
    split at found
    · simp
    · cases found
  obtain ⟨shape', found', encloses⟩ := exists_polygon long
  obtain rfl := Option.some.inj (found.symm.trans found')
  exact encloses.bounded

/-! ### Lines -/

theorem clampUnit_within (x : ℝ) : 0 ≤ clampUnit x ∧ clampUnit x ≤ 1 := by
  by_cases below : x < 0
  · simp [clampUnit, below]
  · by_cases above : 1 < x
    · simp [clampUnit, below, above]
    · simpa [clampUnit, below, above] using ⟨not_lt.mp below, not_lt.mp above⟩

theorem pos_of_clampUnit_ne_zero {x : ℝ} (covered : clampUnit x ≠ 0) : 0 < x := by
  by_contra notPositive
  rcases (not_lt.mp notPositive).lt_or_eq with below | same
  · simp [clampUnit, below] at covered
  · simp [clampUnit, same] at covered

/-- The distance from a line is at least that from one of its points, along either axis. -/
theorem distanceToLine_ge (start finish point : Point ℝ) :
    ∃ t, 0 ≤ t ∧ t ≤ 1 ∧
      |point.x - (start.x + t * (finish.x - start.x))| ≤ distanceToLine start finish point ∧
      |point.y - (start.y + t * (finish.y - start.y))| ≤ distanceToLine start finish point := by
  have along : ∃ t, 0 ≤ t ∧ t ≤ 1 ∧ distanceToLine start finish point =
      √((point.x - (start.x + t * (finish.x - start.x))) ^ 2 +
        (point.y - (start.y + t * (finish.y - start.y))) ^ 2) := by
    rw [distanceToLine]
    split
    · refine ⟨0, le_rfl, zero_le_one, ?_⟩
      simp
    · exact ⟨_, (clampUnit_within _).1, (clampUnit_within _).2, rfl⟩
  obtain ⟨t, least, greatest, same⟩ := along
  refine ⟨t, least, greatest, ?_, ?_⟩
  · rw [same]
    exact Real.abs_le_sqrt (le_add_of_nonneg_right (sq_nonneg _))
  · rw [same]
    exact Real.abs_le_sqrt (le_add_of_nonneg_left (sq_nonneg _))

theorem line_bounded (smooth : Bool) {half : ℝ} (start finish : Point ℝ) :
    (line smooth half start finish).Bounded := by
  intro point covered
  have near : distanceToLine start finish point ≤ half + 1 := by
    cases smooth with
    | true =>
        have positive : 0 < half + Scalar.ratio 1 2 - distanceToLine start finish point :=
          pos_of_clampUnit_ne_zero covered
        rw [ratio_real] at positive
        norm_num at positive
        linarith
    | false =>
        have inside : distanceToLine start finish point ≤ half :=
          of_decide_eq_true (indicator_ne_zero covered)
        linarith
  obtain ⟨t, least, greatest, alongX, alongY⟩ := distanceToLine_ge start finish point
  have first (a b : ℝ) : min a b ≤ a ∧ a ≤ max a b := ⟨min_le_left a b, le_max_left a b⟩
  have second (a b : ℝ) : min a b ≤ b ∧ b ≤ max a b := ⟨min_le_right a b, le_max_right a b⟩
  obtain ⟨leastX, greatestX⟩ :=
    mix_within least greatest (first start.x finish.x) (second start.x finish.x)
  obtain ⟨leastY, greatestY⟩ :=
    mix_within least greatest (first start.y finish.y) (second start.y finish.y)
  obtain ⟨lowerX, upperX⟩ := abs_le.mp alongX
  obtain ⟨lowerY, upperY⟩ := abs_le.mp alongY
  simp only [line, least_real, greatest_real, ofInt_real, Int.cast_one]
  exact ⟨⟨by linarith, by linarith⟩, by linarith, by linarith⟩

/-! ### Ellipses and rectangles -/

theorem within_of_insideEllipse {center point : Point ℝ} {radiusX radiusY : ℝ}
    (wide : 0 < radiusX) (high : 0 < radiusY)
    (inside : insideEllipse center radiusX radiusY point = true) :
    (center.x - radiusX ≤ point.x ∧ point.x ≤ center.x + radiusX) ∧
      center.y - radiusY ≤ point.y ∧ point.y ≤ center.y + radiusY := by
  have near : ((point.x - center.x) / radiusX) ^ 2 + ((point.y - center.y) / radiusY) ^ 2 ≤ 1 := by
    simpa [insideEllipse, ellipseDistance, square, pow_two] using inside
  have across {offset radius : ℝ} (positive : 0 < radius) (small : (offset / radius) ^ 2 ≤ 1) :
      -radius ≤ offset ∧ offset ≤ radius := by
    have unit := abs_le_of_sq_le_sq' (small.trans_eq (one_pow 2).symm) zero_le_one
    rw [le_div_iff₀ positive, div_le_iff₀ positive] at unit
    exact ⟨by linarith [unit.1], by linarith [unit.2]⟩
  obtain ⟨left, right⟩ := across wide ((le_add_of_nonneg_right (sq_nonneg _)).trans near)
  obtain ⟨top, bottom⟩ := across high ((le_add_of_nonneg_left (sq_nonneg _)).trans near)
  exact ⟨⟨by linarith, by linarith⟩, by linarith, by linarith⟩

theorem ellipse_bounded {center : Point ℝ} {radiusX radiusY : ℝ} {shape : Shape ℝ}
    (found : ellipse? center radiusX radiusY = some shape) : shape.Bounded := by
  rw [ellipse?] at found
  split at found
  · cases found
  case isFalse hollow =>
    obtain rfl := Option.some.inj found
    simp only [abs_real, eq_real, ofInt_real, Int.cast_zero, Bool.or_eq_true, decide_eq_true_eq,
      abs_eq_zero, not_or] at hollow
    exact fun point covered => within_of_insideEllipse (abs_pos.mpr hollow.1)
      (abs_pos.mpr hollow.2) (indicator_ne_zero covered)

theorem ring_bounded {half : ℝ} (wide : 0 < half) (center : Point ℝ) (radiusX radiusY : ℝ) :
    (ring half center radiusX radiusY).Bounded := by
  intro point covered
  have inside := indicator_ne_zero covered
  rw [Bool.and_eq_true] at inside
  exact within_of_insideEllipse (add_pos_of_nonneg_of_pos (abs_nonneg radiusX) wide)
    (add_pos_of_nonneg_of_pos (abs_nonneg radiusY) wide) inside.1

theorem rectangle_bounded (corner opposite : Point ℝ) : (rectangle corner opposite).Bounded := by
  intro point covered
  have inside := indicator_ne_zero covered
  simp only [le_real, Bool.and_eq_true, decide_eq_true_eq] at inside
  obtain ⟨⟨⟨left, right⟩, top⟩, bottom⟩ := inside
  exact ⟨⟨left, right⟩, top, bottom⟩

end Shape

/-! ### Windows -/

namespace Canvas

open Drawing (Call)

/-- The point that a pixel stands for. -/
noncomputable def spot (x y : Nat) : Point ℝ := ⟨ofInt x, ofInt y⟩

/-- Whether painting a shape looks at a pixel. -/
noncomputable def inWindow (canvas : Canvas) (shape : Shape ℝ) (x y : Nat) : Bool :=
  (canvas.window? shape).any fun window => window.contains x y

/-- How much a shape covers of a pixel, as far as painting looks. -/
noncomputable def clippedCoverage (canvas : Canvas) (shape : Shape ℝ) (x y : Nat) : ℝ :=
  if canvas.inWindow shape x y then shape.coverage (spot x y) else 0

variable {canvas : Canvas} {x y : Nat}

/-- Painting looks at every pixel that lies within the bounds of a shape. -/
theorem inWindow_of_within {shape : Shape ℝ} (column : x < canvas.picture.width)
    (row : y < canvas.picture.height)
    (within : (shape.minX ≤ x ∧ (x : ℝ) ≤ shape.maxX) ∧ shape.minY ≤ y ∧ (y : ℝ) ≤ shape.maxY) :
    canvas.inWindow shape x y = true := by
  obtain ⟨⟨left, right⟩, top, bottom⟩ := within
  have left' : ⌊shape.minX⌋ ≤ x := by exact_mod_cast (Int.floor_le _).trans left
  have top' : ⌊shape.minY⌋ ≤ y := by exact_mod_cast (Int.floor_le _).trans top
  have right' : (x : Int) ≤ ⌈shape.maxX⌉ := by exact_mod_cast right.trans (Int.le_ceil _)
  have bottom' : (y : Int) ≤ ⌈shape.maxY⌉ := by exact_mod_cast bottom.trans (Int.le_ceil _)
  simp only [inWindow, window?, isFinite_real, floor_real, ceil_real, Bool.and_self, if_true]
  rw [if_neg (by omega), Option.any_some, Window.contains]
  simp only [Bool.and_eq_true, decide_eq_true_eq]
  omega

theorem coverage_eq_zero {shape : Shape ℝ} (bounded : shape.Bounded)
    (column : x < canvas.picture.width) (row : y < canvas.picture.height)
    (outside : canvas.inWindow shape x y = false) : shape.coverage (spot x y) = 0 := by
  by_contra covered
  have within := bounded _ covered
  rw [inWindow_of_within column row within] at outside
  cases outside

theorem halfWidth_pos (canvas : Canvas) : 0 < (canvas.halfWidth : ℝ) := by
  have wide : (0 : Int) < if canvas.smooth then 1 else max 1 canvas.strokeWidth := by
    split <;> omega
  have wide' : (0 : ℝ) < (if canvas.smooth then 1 else max 1 canvas.strokeWidth : Int) := by
    exact_mod_cast wide
  exact div_pos wide' (by norm_num)

theorem outline_bounded (vertices : List (Point ℝ)) :
    ∀ shape ∈ canvas.outline vertices, shape.Bounded := by
  intro shape member
  obtain ⟨edge, _, rfl⟩ := List.mem_map.mp member
  exact Shape.line_bounded _ _ _

/-- Everything that a call paints is within its bounds; of texts the typeface has to say so. -/
theorem painting_bounded {typeface : Typeface ℝ} {call : Call ℝ} {shapes : List (Shape ℝ)}
    {color : Color} (found : canvas.painting? typeface call = some (shapes, color))
    (drawn : ∀ position text, call ≠ .text position text color) :
    ∀ shape ∈ shapes, shape.Bounded := by
  cases call with
  | setStrokeWidth | setBlending => cases found
  | fillPolygon vertices =>
      obtain ⟨rfl, rfl⟩ := Prod.mk.inj (Option.some.inj found)
      exact fun shape member => Shape.polygon_bounded (Option.mem_toList.mp member)
  | strokePolygon vertices =>
      obtain ⟨rfl, rfl⟩ := Prod.mk.inj (Option.some.inj found)
      exact outline_bounded vertices
  | strokeLine start finish =>
      obtain ⟨rfl, rfl⟩ := Prod.mk.inj (Option.some.inj found)
      exact List.forall_mem_singleton.mpr (Shape.line_bounded _ _ _)
  | fillEllipse center radiusX radiusY =>
      obtain ⟨rfl, rfl⟩ := Prod.mk.inj (Option.some.inj found)
      exact fun shape member => Shape.ellipse_bounded (Option.mem_toList.mp member)
  | strokeEllipse center radiusX radiusY =>
      obtain ⟨rfl, rfl⟩ := Prod.mk.inj (Option.some.inj found)
      exact List.forall_mem_singleton.mpr (Shape.ring_bounded canvas.halfWidth_pos _ _ _)
  | fillRectangle corner opposite =>
      obtain ⟨rfl, rfl⟩ := Prod.mk.inj (Option.some.inj found)
      exact List.forall_mem_singleton.mpr (Shape.rectangle_bounded _ _)
  | strokeRectangle corner opposite =>
      obtain ⟨rfl, rfl⟩ := Prod.mk.inj (Option.some.inj found)
      exact outline_bounded _
  | text position text =>
      obtain ⟨rfl, rfl⟩ := Prod.mk.inj (Option.some.inj found)
      exact absurd rfl (drawn position text)

/-- No pixel outside of its window is covered by a polygon, a line, an ellipse, a ring or a
rectangle, so that looking at the window alone loses nothing. Of polygons this is so because their
edges meet any row an even number of times. -/
theorem painting_clipped {typeface : Typeface ℝ} {call : Call ℝ} {shapes : List (Shape ℝ)}
    {color : Color} (found : canvas.painting? typeface call = some (shapes, color))
    (drawn : ∀ position text, call ≠ .text position text color) :
    (∀ shape ∈ shapes, ∀ x < canvas.picture.width, ∀ y < canvas.picture.height,
      (canvas.inWindow shape x y = false → shape.coverage (spot x y) = 0) ∧
        canvas.clippedCoverage shape x y = shape.coverage (spot x y)) ∧
    ∀ (vertices : List (Point ℝ)) (row : ℝ),
      Even ((Shape.edges vertices).countP (Shape.meetsRow row)) := by
  constructor
  · intro shape member x column y row
    have bounded := painting_bounded found drawn shape member
    refine ⟨coverage_eq_zero bounded column row, ?_⟩
    rw [clippedCoverage]
    cases looked : canvas.inWindow shape x y with
    | true => rfl
    | false => exact (coverage_eq_zero bounded column row looked).symm
  · intro vertices row
    rw [Nat.even_iff, Nat.mod_two_of_bodd, Shape.bodd_meetsRow]
    rfl

/-- A polygon that crosses itself. -/
noncomputable def bow : List (Point ℝ) := [⟨0, 0⟩, ⟨1, 1⟩, ⟨1, 0⟩, ⟨0, 1⟩]

theorem painting_clipped_bow :
    ∃ shape, Shape.polygon? bow = some shape ∧
      (blank 5 5 ⟨0, 0, 0, 0⟩ false).clippedCoverage shape 4 3 = shape.coverage (spot 4 3) ∧
      Even ((Shape.edges bow).countP (Shape.meetsRow 1)) := by
  obtain ⟨shape, made, _⟩ := Shape.exists_polygon (show 3 ≤ bow.length by simp [bow])
  have found : (blank 5 5 ⟨0, 0, 0, 0⟩ false).painting? .invisible (.fillPolygon bow .black) =
      some ([shape], .black) := by
    rw [painting?, made]
    rfl
  obtain ⟨covered, even⟩ := painting_clipped found (by simp)
  exact ⟨shape, made, (covered shape (by simp) 4 (by decide) 3 (by decide)).2, even bow 1⟩

end Canvas

end Vignette
