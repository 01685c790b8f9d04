import LargerThanLife.Proofs.Neighbourhood.ReadingOrder
import Mathlib.Algebra.BigOperators.Group.Finset.Piecewise
import Mathlib.Tactic.Ring

/-! The number of neighbours. Each row of a neighbourhood is an interval of columns about its middle,
which loses the origin in the middle row; the rows are as wide as each other in the square and become
narrower by two, row by row, in the diamond. Their sum is the closed form. -/

namespace LargerThanLife

/-- The integers from `-radius` to `radius`, as a set. -/
def reach (radius : ℕ) : Finset ℤ := (span radius).toFinset

@[simp] theorem mem_reach {radius : ℕ} {d : ℤ} : d ∈ reach radius ↔ -radius ≤ d ∧ d ≤ radius := by
  rw [reach, List.mem_toFinset, mem_span]

theorem nodup_span (radius : ℕ) : (span radius).Nodup := (pairwise_span radius).imp ne_of_lt

@[simp] theorem card_reach (radius : ℕ) : (reach radius).card = 2 * radius + 1 := by
  rw [reach, List.toFinset_card_of_nodup (nodup_span radius), span, List.length_map, List.length_range]

namespace Shape

variable {shape : Shape} {radius : ℕ} {dx dy : ℤ}

/-- How far a neighbourhood extends to either side in the row `dy`. -/
def extent (radius : ℕ) (dy : ℤ) : Shape → ℕ
  | moore => radius
  | vonNeumann => radius - dy.natAbs

theorem distance_le_iff_extent (row : dy.natAbs ≤ radius) :
    shape.distance dx dy ≤ radius ↔ dx.natAbs ≤ shape.extent radius dy := by
  cases shape <;> simp only [distance, extent] <;> omega

theorem extent_le (shape : Shape) (radius : ℕ) (dy : ℤ) : shape.extent radius dy ≤ radius := by
  cases shape with
  | moore => exact le_rfl
  | vonNeumann => exact Nat.sub_le _ _

theorem toFinset_columns (row : dy.natAbs ≤ radius) :
    (shape.columns radius dy).toFinset =
      (reach (shape.extent radius dy)).filter fun dx => dx ≠ 0 ∨ dy ≠ 0 := by
  ext dx
  have narrow := shape.extent_le radius dy
  simp only [columns, List.mem_toFinset, List.mem_filter, mem_span, Bool.and_eq_true, Bool.or_eq_true,
    decide_eq_true_eq, contains_iff, distance_le_iff_extent row, Finset.mem_filter, mem_reach]
  omega

/-- A row has as many neighbours as columns within its extent; the middle row lacks the origin. -/
theorem length_columns (row : dy.natAbs ≤ radius) :
    (shape.columns radius dy).length + (if dy = 0 then 1 else 0) = 2 * shape.extent radius dy + 1 := by
  have once : (shape.columns radius dy).Nodup := (nodup_span radius).filter _
  rw [← List.toFinset_card_of_nodup once, toFinset_columns row, ← card_reach]
  by_cases middle : dy = 0
  · have origin : (0 : ℤ) ∈ reach (shape.extent radius dy) := by
      rw [mem_reach]
      omega
    simp only [middle, ne_eq, not_true_eq_false, or_false, if_true] at origin ⊢
    rw [Finset.filter_ne', Finset.card_erase_add_one origin]
  · simp only [middle, ne_eq, not_false_eq_true, or_true, Finset.filter_true, if_false, Nat.add_zero]

theorem neighbourCount_mono (shape : Shape) : Monotone shape.neighbourCount := by
  intro r s le
  cases shape with
  | moore => exact Nat.sub_le_sub_right (Nat.mul_le_mul (by omega) (by omega)) 1
  | vonNeumann => exact Nat.mul_le_mul (by omega) (by omega)

/-- The widths of all rows of a neighbourhood. -/
theorem sum_extent (shape : Shape) (radius : ℕ) :
    ∑ dy ∈ reach radius, (2 * shape.extent radius dy + 1) =
      shape.neighbourCount radius + 1 := by
  cases shape with
  | moore =>
    have positive : 1 ≤ (2 * radius + 1) * (2 * radius + 1) := Nat.mul_pos (by omega) (by omega)
    simp only [extent, neighbourCount]
    rw [Finset.sum_const_nat fun _ _ => rfl, card_reach]
    omega
  | vonNeumann =>
    simp only [extent, neighbourCount]
    induction radius with
    | zero => rfl
    | succ r ih =>
      -- a greater diamond has a new row of one cell at either end, and two cells more in each old row
      have ends : reach (r + 1) =
          insert (-((r + 1 : ℕ) : ℤ)) (insert ((r + 1 : ℕ) : ℤ) (reach r)) := by
        ext d
        simp only [mem_reach, Finset.mem_insert]
        omega
      have first : (-((r + 1 : ℕ) : ℤ)) ∉ insert ((r + 1 : ℕ) : ℤ) (reach r) := by
        simp only [mem_reach, Finset.mem_insert]
        omega
      have last : ((r + 1 : ℕ) : ℤ) ∉ reach r := by
        simp only [mem_reach]
        omega
      have wider : ∀ dy ∈ reach r,
          2 * (r + 1 - dy.natAbs) + 1 = (2 * (r - dy.natAbs) + 1) + 2 := by
        intro dy row
        rw [mem_reach] at row
        omega
      rw [ends, Finset.sum_insert first, Finset.sum_insert last, Finset.sum_congr rfl wider,
        Finset.sum_add_distrib, ih, Finset.sum_const_nat fun _ _ => rfl, card_reach]
      simp only [Int.natAbs_neg, Int.natAbs_natCast, Nat.sub_self]
      ring

/-- The list of neighbours has as many entries as the closed form says. -/
theorem length_offsets (shape : Shape) (radius : ℕ) :
    (shape.offsets radius).length = shape.neighbourCount radius := by
  have by_rows : (shape.offsets radius).length =
      ∑ dy ∈ reach radius, (shape.columns radius dy).length := by
    rw [reach, List.sum_toFinset _ (nodup_span radius), offsets, List.length_flatMap]
    simp only [List.length_map]
  have origin : ∑ dy ∈ reach radius, (if dy = 0 then 1 else 0) = 1 := by
    rw [Finset.sum_ite_eq', if_pos]
    rw [mem_reach]
    omega
  have filled : (shape.offsets radius).length + 1 = shape.neighbourCount radius + 1 := calc
    (shape.offsets radius).length + 1
        = ∑ dy ∈ reach radius,
            ((shape.columns radius dy).length + if dy = 0 then 1 else 0) := by
          rw [Finset.sum_add_distrib, origin, by_rows]
    _ = ∑ dy ∈ reach radius, (2 * shape.extent radius dy + 1) := by
          refine Finset.sum_congr rfl fun dy row => length_columns ?_
          rw [mem_reach] at row
          omega
    _ = shape.neighbourCount radius + 1 := shape.sum_extent radius
  exact Nat.succ_injective filled

end Shape

end LargerThanLife
