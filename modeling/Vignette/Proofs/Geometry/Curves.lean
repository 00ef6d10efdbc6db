import Mathlib.Tactic.Linarith
import Vignette.Geometry.Bezier
import Vignette.Proofs.Geometry.Reals

namespace Vignette.Bezier

/-! Curves in exact arithmetic. A point of a curve is reached by mixing control points that stand
beside each other, and then the mixtures, until one is left. So no coordinate of it is beyond those
of the control points, and at the two ends it is the first and the last of them. -/

open Scalar (ofInt)

/-! ### Parameters -/

theorem getLast?_parameters {α : Type} [Scalar α] :
    (parameters : List α).getLast? = some (ofInt 1) := by
  rw [parameters, List.range_succ, List.map_append, List.map_singleton, List.getLast?_concat,
    parameter, if_pos rfl]

theorem parameter_real (step : Nat) : (parameter step : ℝ) = step / 50 := by
  rw [parameter]
  split
  case isTrue last => rw [last]; norm_num [steps]
  case isFalse => norm_num [steps]; ring

theorem parameters_real :
    (parameters : List ℝ) = (List.range 51).map fun step : Nat => (step : ℝ) / 50 :=
  List.map_congr_left fun step _ => parameter_real step

theorem head?_parameters : (parameters : List ℝ).head? = some 0 := by
  simp [parameters_real, List.head?_range]

theorem mem_parameters {t : ℝ} (member : t ∈ (parameters : List ℝ)) : 0 ≤ t ∧ t ≤ 1 := by
  rw [parameters_real] at member
  obtain ⟨step, inside, rfl⟩ := List.mem_map.mp member
  have few : (step : ℝ) ≤ 50 := by exact_mod_cast Nat.le_of_lt_succ (List.mem_range.mp inside)
  exact ⟨by positivity, div_le_one_of_le₀ few (by norm_num)⟩

/-! ### Coordinates -/

section Coordinates

variable (a0 a1 a2 a3 t : ℝ)

/-- The number that is on the way from one to another at a parameter. -/
def mix (a b t : ℝ) : ℝ := a + t * (b - a)

theorem quadratic_eq_mix : quadratic a0 a1 a2 t = mix (mix a0 a1 t) (mix a1 a2 t) t := by
  simp only [quadratic, square, mix, ofInt_real]
  push_cast
  ring

theorem cubic_eq_mix :
    cubic a0 a1 a2 a3 t = mix (quadratic a0 a1 a2 t) (quadratic a1 a2 a3 t) t := by
  simp only [cubic, quadratic, square, cube_real, mix, ofInt_real]
  push_cast
  ring

theorem quadratic_start : quadratic a0 a1 a2 0 = a0 := by simp [quadratic_eq_mix, mix]

theorem quadratic_end : quadratic a0 a1 a2 (ofInt 1) = a2 := by simp [quadratic_eq_mix, mix]

theorem cubic_start : cubic a0 a1 a2 a3 0 = a0 := by simp [cubic_eq_mix, quadratic_start, mix]

theorem cubic_end : cubic a0 a1 a2 a3 (ofInt 1) = a3 := by
  rw [cubic_eq_mix, quadratic_end, quadratic_end]
  simp [mix]

variable {a0 a1 a2 a3 t} {low high : ℝ}

theorem quadratic_within (least : 0 ≤ t) (greatest : t ≤ 1)
    (within : ∀ a ∈ [a0, a1, a2], low ≤ a ∧ a ≤ high) :
    low ≤ quadratic a0 a1 a2 t ∧ quadratic a0 a1 a2 t ≤ high := by
  simp only [List.forall_mem_cons, List.not_mem_nil, false_imp_iff, implies_true, and_true] at within
  obtain ⟨first, second, third⟩ := within
  rw [quadratic_eq_mix]
  exact mix_within least greatest (mix_within least greatest first second)
    (mix_within least greatest second third)

theorem cubic_within (least : 0 ≤ t) (greatest : t ≤ 1)
    (within : ∀ a ∈ [a0, a1, a2, a3], low ≤ a ∧ a ≤ high) :
    low ≤ cubic a0 a1 a2 a3 t ∧ cubic a0 a1 a2 a3 t ≤ high := by
  have front : ∀ a ∈ [a0, a1, a2], low ≤ a ∧ a ≤ high := fun a member =>
    within a (by simp only [List.mem_cons] at member ⊢; tauto)
  have back : ∀ a ∈ [a1, a2, a3], low ≤ a ∧ a ≤ high := fun a member =>
    within a (List.mem_cons_of_mem _ member)
  rw [cubic_eq_mix]
  exact mix_within least greatest (quadratic_within least greatest front)
    (quadratic_within least greatest back)

end Coordinates

/-! ### Points -/

/-- A number lies between the least and the greatest of some numbers. -/
def Between (numbers : List ℝ) (x : ℝ) : Prop :=
  ∃ low ∈ numbers, ∃ high ∈ numbers, (∀ number ∈ numbers, low ≤ number ∧ number ≤ high) ∧
    low ≤ x ∧ x ≤ high

theorem exists_bounds {numbers : List ℝ} (nonempty : numbers ≠ []) :
    ∃ low ∈ numbers, ∃ high ∈ numbers, ∀ number ∈ numbers, low ≤ number ∧ number ≤ high := by
  induction numbers with
  | nil => contradiction
  | cons first rest ih =>
      by_cases alone : rest = []
      · subst alone
        exact ⟨first, by simp, first, by simp, by simp⟩
      · obtain ⟨low, lowMember, high, highMember, bounds⟩ := ih alone
        refine ⟨min first low, ?_, max first high, ?_, ?_⟩
        · rcases min_choice first low with same | same <;> simp [same, lowMember]
        · rcases max_choice first high with same | same <;> simp [same, highMember]
        · intro number member
          rcases List.mem_cons.mp member with rfl | later
          · exact ⟨min_le_left _ _, le_max_left _ _⟩
          · exact ⟨(min_le_right _ _).trans (bounds number later).1,
              (bounds number later).2.trans (le_max_right _ _)⟩

theorem between_of_within {numbers : List ℝ} {x : ℝ} (nonempty : numbers ≠ [])
    (within : ∀ low high, (∀ number ∈ numbers, low ≤ number ∧ number ≤ high) →
      low ≤ x ∧ x ≤ high) : Between numbers x := by
  obtain ⟨low, lowMember, high, highMember, bounds⟩ := exists_bounds nonempty
  exact ⟨low, lowMember, high, highMember, bounds, within low high bounds⟩

/-- Fifty-one points that lead from the first control point of a curve to its last one, and whose
coordinates lie between the least and the greatest ones of all its control points. -/
structure Anchored (controls points : List (Point ℝ)) : Prop where
  length : points.length = 51
  head : points.head? = controls.head?
  last : points.getLast? = controls.getLast?
  between : ∀ point ∈ points,
    Between (controls.map Point.x) point.x ∧ Between (controls.map Point.y) point.y

theorem getLast?_flattenQuadratic (p0 p1 p2 : Point ℝ) :
    (flattenQuadratic p0 p1 p2).getLast? = some p2 := by
  rw [flattenQuadratic, List.getLast?_map, getLast?_parameters, Option.map_some, quadratic_end,
    quadratic_end]

theorem getLast?_flattenCubic (p0 p1 p2 p3 : Point ℝ) :
    (flattenCubic p0 p1 p2 p3).getLast? = some p3 := by
  rw [flattenCubic, List.getLast?_map, getLast?_parameters, Option.map_some, cubic_end, cubic_end]

theorem flattenQuadratic_anchored (p0 p1 p2 : Point ℝ) :
    Anchored [p0, p1, p2] (flattenQuadratic p0 p1 p2) where
  length := length_flattenQuadratic p0 p1 p2
  head := by
    rw [flattenQuadratic, List.head?_map, head?_parameters, Option.map_some, quadratic_start,
      quadratic_start]
    rfl
  last := getLast?_flattenQuadratic p0 p1 p2
  between := by
    intro point member
    obtain ⟨t, among, rfl⟩ := List.mem_map.mp member
    obtain ⟨least, greatest⟩ := mem_parameters among
    exact ⟨between_of_within (by simp) fun _ _ => quadratic_within least greatest,
      between_of_within (by simp) fun _ _ => quadratic_within least greatest⟩

theorem flattenCubic_anchored (p0 p1 p2 p3 : Point ℝ) :
    Anchored [p0, p1, p2, p3] (flattenCubic p0 p1 p2 p3) where
  length := length_flattenCubic p0 p1 p2 p3
  head := by
    rw [flattenCubic, List.head?_map, head?_parameters, Option.map_some, cubic_start, cubic_start]
    rfl
  last := getLast?_flattenCubic p0 p1 p2 p3
  between := by
    intro point member
    obtain ⟨t, among, rfl⟩ := List.mem_map.mp member
    obtain ⟨least, greatest⟩ := mem_parameters among
    exact ⟨between_of_within (by simp) fun _ _ => cubic_within least greatest,
      between_of_within (by simp) fun _ _ => cubic_within least greatest⟩

end Vignette.Bezier
