import Mathlib.Data.Nat.Bits
import Mathlib.Order.Lattice
import Vignette.Canvas.Shape

namespace Vignette.Shape

/-! Polygons by their edges. A point is inside if the edges that a ray from it crosses are odd in
number, so the order of the edges does not matter. Along a closed line, a side of the plane is
entered as often as it is left. -/

variable {α : Type}

/-- The lines from each vertex to the next. -/
def joins : List (Point α) → List (Point α × Point α)
  | first :: second :: rest => (first, second) :: joins (second :: rest)
  | _ => []

theorem joins_append (front back : List (Point α)) (middle : Point α) :
    joins (front ++ middle :: back) = joins (front ++ [middle]) ++ joins (middle :: back) := by
  induction front with
  | nil => rfl
  | cons first rest ih =>
      cases rest with
      | nil => rfl
      | cons second rest => exact congrArg ((first, second) :: ·) ih

/-- The edges of a polygon are the joins of its vertices, back to the first one. -/
theorem edges_cons (first : Point α) (rest : List (Point α)) :
    edges (first :: rest) = joins (first :: rest ++ [first]) := by
  change (first :: rest).zip (rest ++ [first]) = _
  suffices general : ∀ start, (start :: rest).zip (rest ++ [first]) =
      joins (start :: rest ++ [first]) from general first
  induction rest with
  | nil => exact fun start => rfl
  | cons second rest ih => exact fun start => congrArg ((start, second) :: ·) (ih second)

theorem mem_of_mem_edges {vertices : List (Point α)} {edge : Point α × Point α}
    (member : edge ∈ edges vertices) : edge.1 ∈ vertices ∧ edge.2 ∈ vertices := by
  obtain ⟨starts, ends⟩ := List.of_mem_zip (a := edge.1) (b := edge.2) member
  exact ⟨starts, (List.mem_append.mp ends).elim List.mem_of_mem_drop List.mem_of_mem_take⟩

/-- It does not matter with which vertex a polygon begins. -/
theorem edges_perm (front back : List (Point α)) :
    (edges (back ++ front)).Perm (edges (front ++ back)) := by
  cases front with
  | nil => rw [List.append_nil, List.nil_append]
  | cons first front =>
      cases back with
      | nil => rw [List.append_nil, List.nil_append]
      | cons second back =>
          have turned (start other : Point α) (near far : List (Point α)) :
              edges (start :: near ++ other :: far) =
                joins (start :: near ++ [other]) ++ joins (other :: far ++ [start]) := by
            have whole := joins_append (start :: near) (far ++ [start]) other
            rw [← List.cons_append, ← List.append_assoc] at whole
            exact (edges_cons _ _).trans whole
          rw [turned, turned]
          exact List.perm_append_comm

theorem edges_double (vertex : Point α) (rest : List (Point α)) :
    edges (vertex :: vertex :: rest) = (vertex, vertex) :: edges (vertex :: rest) := by
  rw [edges_cons, edges_cons]
  rfl

theorem bodd_crossings (side : Point α → Bool) (first last : Point α) (middle : List (Point α)) :
    ((joins (first :: middle ++ [last])).countP fun edge => side edge.1 != side edge.2).bodd =
      (side first != side last) := by
  induction middle generalizing first with
  | nil =>
      change (List.countP _ [(first, last)]).bodd = _
      rw [List.countP_singleton]
      cases side first <;> cases side last <;> rfl
  | cons second rest ih =>
      change (List.countP _ ((first, second) :: joins (second :: rest ++ [last]))).bodd = _
      rw [List.countP_cons, Nat.bodd_add, ih second]
      cases side first <;> cases side second <;> cases side last <;> rfl

/-- The edges of a polygon that pass from one side to the other are even in number. -/
theorem bodd_edges (side : Point α → Bool) (vertices : List (Point α)) :
    ((edges vertices).countP fun edge => side edge.1 != side edge.2).bodd = false := by
  cases vertices with
  | nil => exact Nat.bodd_zero
  | cons first rest => rw [edges_cons, bodd_crossings, bne_self_eq_false]

theorem foldl_parity {β : Type} (meets : β → Bool) (edges : List β) (inside : Bool) :
    edges.foldl (fun inside edge => inside != meets edge) inside =
      (inside != (edges.countP meets).bodd) := by
  induction edges generalizing inside with
  | nil =>
      rw [List.foldl_nil, List.countP_nil, Nat.bodd_zero]
      exact (Bool.xor_false inside).symm
  | cons edge rest ih =>
      rw [List.foldl_cons, ih, List.countP_cons, Nat.bodd_add]
      cases inside <;> cases meets edge <;> cases (rest.countP meets).bodd <;> rfl

/-! ### Bounds -/

/-- One of some scalars, with none before it in the order of their values. -/
def Foremost {β : Type} [LE β] (value : α → β) (xs : List α) (x : α) : Prop :=
  x ∈ xs ∧ ∀ y ∈ xs, value x ≤ value y

section Foremost

variable {β : Type} [LinearOrder β] {value : α → β} {sound : α → Prop} {before : α → α → Bool}

theorem Foremost.value_eq {xs ys : List α} {x y : α} (found : Foremost value xs x)
    (found' : Foremost value ys y) (same : ∀ z, z ∈ ys ↔ z ∈ xs) : value y = value x :=
  le_antisymm (found'.2 x ((same x).mpr found.1)) (found.2 y ((same y).mp found'.1))

variable (order : ∀ {x y}, sound x → sound y → (before x y = true ↔ value x < value y))
include order

theorem foldl_foremost {first : α} {rest : List α} (all : ∀ x ∈ first :: rest, sound x) :
    Foremost value (first :: rest)
      (rest.foldl (fun most x => if before x most then x else most) first) := by
  induction rest generalizing first with
  | nil =>
      refine ⟨List.mem_singleton.mpr rfl, fun x member => ?_⟩
      rw [List.mem_singleton.mp member]
      exact le_rfl
  | cons second rest ih =>
      obtain ⟨known, known', others⟩ : sound first ∧ sound second ∧ ∀ x ∈ rest, sound x := by
        simpa only [List.forall_mem_cons] using all
      rw [List.foldl_cons]
      cases better : before second first with
      | true =>
          have less := (order known' known).mp better
          obtain ⟨member, least⟩ := ih (List.forall_mem_cons.mpr ⟨known', others⟩)
          refine ⟨List.mem_cons_of_mem _ member, List.forall_mem_cons.mpr ⟨?_, least⟩⟩
          exact le_trans (least second List.mem_cons_self) (le_of_lt less)
      | false =>
          have notLess : ¬value second < value first := fun less => by
            rw [(order known' known).mpr less] at better
            cases better
          obtain ⟨member, least⟩ := ih (List.forall_mem_cons.mpr ⟨known, others⟩)
          obtain ⟨here, later⟩ := List.forall_mem_cons.mp least
          refine ⟨?_, List.forall_mem_cons.mpr ⟨here, List.forall_mem_cons.mpr ⟨?_, later⟩⟩⟩
          · rcases List.mem_cons.mp member with same | behind
            · exact List.mem_cons.mpr (.inl same)
            · exact List.mem_cons_of_mem _ (List.mem_cons_of_mem _ behind)
          · exact le_trans here (not_lt.mp notLess)

/-- The foremost coordinate of the vertices of a polygon, searched for from the first one. -/
theorem foldl_foremost_map {coordinate : Point α → α} {first : Point α} {rest : List (Point α)}
    (all : ∀ p ∈ first :: rest, sound (coordinate p)) :
    Foremost value ((first :: rest).map coordinate)
      ((first :: rest).foldl
        (fun most p => if before (coordinate p) most then coordinate p else most)
        (coordinate first)) := by
  have all' : ∀ x ∈ coordinate first :: (first :: rest).map coordinate, sound x := by
    rw [List.forall_mem_cons, List.forall_mem_map]
    exact ⟨all first List.mem_cons_self, all⟩
  obtain ⟨member, least⟩ := foldl_foremost order all'
  rw [List.foldl_map] at member least
  refine ⟨?_, fun y among => least y (List.mem_cons_of_mem _ among)⟩
  rcases List.mem_cons.mp member with same | behind
  · rw [same]
    exact List.mem_cons_self
  · exact behind

end Foremost

variable [Scalar α]

/-- How many edges a ray to the right of a point crosses. -/
def crossings (vertices : List (Point α)) (point : Point α) : Nat :=
  (edges vertices).countP fun edge => crosses point edge.1 edge.2

theorem insidePolygon_eq (vertices : List (Point α)) (point : Point α) :
    insidePolygon (edges vertices) point = (crossings vertices point).bodd := by
  have counted := foldl_parity (fun edge : Point α × Point α => crosses point edge.1 edge.2)
    (edges vertices) false
  exact counted.trans (Bool.false_xor _)

/-- No ray crosses an edge that does not rise. -/
theorem crosses_self (point vertex : Point α) : crosses point vertex vertex = false := by
  rw [crosses, bne_self_eq_false, Bool.and_false, Bool.false_and]

/-- The shape of a polygon: what it covers, and bounds that are coordinates of its vertices. -/
structure Encloses {β : Type} [LinearOrder β] (value : α → β) (vertices : List (Point α))
    (shape : Shape α) : Prop where
  coverage : shape.coverage = fun point => indicator (insidePolygon (edges vertices) point)
  minX : Foremost value (vertices.map Point.x) shape.minX
  minY : Foremost value (vertices.map Point.y) shape.minY
  maxX : Foremost (OrderDual.toDual ∘ value) (vertices.map Point.x) shape.maxX
  maxY : Foremost (OrderDual.toDual ∘ value) (vertices.map Point.y) shape.maxY

theorem polygon?_encloses {β : Type} [LinearOrder β] {value : α → β} {vertices : List (Point α)}
    (order : ∀ {x y : α}, Scalar.isFinite x = true → Scalar.isFinite y = true →
      (Scalar.lt x y = true ↔ value x < value y))
    (long : 3 ≤ vertices.length) (finite : vertices.all Point.isFinite = true) :
    ∃ shape, polygon? vertices = some shape ∧ shape.Encloses value vertices := by
  have coordinates : ∀ p ∈ vertices, Scalar.isFinite p.x = true ∧ Scalar.isFinite p.y = true :=
    fun p member => Bool.and_eq_true_iff.mp (List.all_eq_true.mp finite p member)
  have order' : ∀ {x y : α}, Scalar.isFinite x = true → Scalar.isFinite y = true →
      (Scalar.lt y x = true ↔ (OrderDual.toDual ∘ value) x < (OrderDual.toDual ∘ value) y) :=
    fun known known' => order known' known
  rcases vertices with _ | ⟨first, _ | ⟨second, _ | ⟨third, rest⟩⟩⟩
  case cons.cons.cons =>
    refine ⟨_, if_pos finite, rfl, ?_, ?_, ?_, ?_⟩
    · exact foldl_foremost_map order fun p member => (coordinates p member).1
    · exact foldl_foremost_map order fun p member => (coordinates p member).2
    · exact foldl_foremost_map order' fun p member => (coordinates p member).1
    · exact foldl_foremost_map order' fun p member => (coordinates p member).2
  all_goals exact absurd long (of_decide_eq_false rfl)

theorem polygon?_of_not_finite {vertices : List (Point α)}
    (infinite : vertices.all Point.isFinite = false) : polygon? vertices = none := by
  unfold polygon?
  split
  · exact if_neg (Bool.eq_false_iff.mp infinite)
  · rfl

end Vignette.Shape
