import LargerThanLife.Board.Step
import LargerThanLife.Proofs.Neighbourhood.Count
import Mathlib.Data.Finset.Card
import Mathlib.Data.Finset.Prod
import Mathlib.Data.Nat.Dist

/-! The live neighbours of a cell as a set of cells. The count that a step uses goes through a list
of offsets and looks each place up by its index; the main statement is that it is the number of other
live cells within the radius, for cells at an edge as for any other. It is at most the number of
neighbours. -/

namespace LargerThanLife

/-- The distance between two cells, each given by its column and row. -/
def Shape.separation (shape : Shape) (p q : ℕ × ℕ) : ℕ :=
  match shape with
  | .moore => max (Nat.dist p.1 q.1) (Nat.dist p.2 q.2)
  | .vonNeumann => Nat.dist p.1 q.1 + Nat.dist p.2 q.2

theorem Shape.separation_eq_distance (shape : Shape) (p q : ℕ × ℕ) :
    shape.separation p q = shape.distance ((q.1 : ℤ) - p.1) ((q.2 : ℤ) - p.2) := by
  cases shape <;> simp only [separation, distance, Nat.dist] <;> omega

/-- The greatest neighbourhood is the square of radius 10. -/
theorem Configuration.neighbourCount_le (c : Configuration) : c.neighbourCount ≤ 440 := by
  have le : c.neighbourCount ≤ c.shape.neighbourCount 10 :=
    c.shape.neighbourCount_mono c.radius_le
  refine le.trans ?_
  cases c.shape <;> decide

namespace Board

variable {b : Board}

theorem countLive_le_neighbourCount (fits : b.offsets = b.configuration.offsets) (x y : ℕ) :
    b.countLive x y ≤ b.configuration.neighbourCount := by
  rw [Configuration.neighbourCount, ← Shape.length_offsets]
  exact (List.countP_le_length).trans_eq (congrArg List.length fits)

/-- The other live cells of the board within the radius of a cell. -/
def liveAround (b : Board) (x y : ℕ) : Finset (ℕ × ℕ) :=
  (Finset.range b.width ×ˢ Finset.range b.height).filter fun p =>
    p ≠ (x, y) ∧ b.get p.1 p.2 = .ok Cell.alive ∧
      b.configuration.shape.separation (x, y) p ≤ b.configuration.radius

theorem isAlive_iff {x y : ℤ} :
    b.isAlive x y ↔ ∃ p : ℕ × ℕ, (x = p.1 ∧ y = p.2) ∧ (p.1 < b.width ∧ p.2 < b.height) ∧
      b.get p.1 p.2 = .ok Cell.alive := by
  simp only [isAlive, Bool.and_eq_true, decide_eq_true_eq, beq_iff_eq]
  constructor
  · rintro ⟨⟨⟨⟨hx, hw⟩, hy⟩, hh⟩, alive⟩
    have on : x.toNat < b.width ∧ y.toNat < b.height := by omega
    refine ⟨(x.toNat, y.toNat), by simp [hx, hy], on, ?_⟩
    simp [on, alive]
  · rintro ⟨p, ⟨rfl, rfl⟩, on, alive⟩
    rw [get_of_mem on] at alive
    exact ⟨by omega, Except.ok.inj alive⟩

theorem isAlive_of_mem {x y : ℕ} (h : x < b.width ∧ y < b.height) :
    b.isAlive x y = (b.stateAt (y * b.width + x) == Cell.alive) := by
  simp [isAlive, h]

def offsetTo (x y : ℕ) (p : ℕ × ℕ) : Offset := ⟨(p.1 : ℤ) - x, (p.2 : ℤ) - y⟩

theorem offsetTo_eq_iff {x y : ℕ} {p : ℕ × ℕ} {o : Offset} :
    offsetTo x y p = o ↔ (x : ℤ) + o.dx = p.1 ∧ (y : ℤ) + o.dy = p.2 := by
  obtain ⟨dx, dy⟩ := o
  simp only [offsetTo, Offset.mk.injEq]
  omega

theorem mem_liveAround {x y : ℕ} {p : ℕ × ℕ} (fits : b.offsets = b.configuration.offsets) :
    p ∈ b.liveAround x y ↔ offsetTo x y p ∈ b.offsets ∧ b.isAlive p.1 p.2 := by
  rw [fits, Configuration.offsets, Shape.mem_offsets, isAlive_iff]
  simp only [liveAround, Finset.mem_filter, Finset.mem_product, Finset.mem_range, offsetTo,
    Shape.contains_iff, Shape.separation_eq_distance]
  constructor
  · rintro ⟨on, other, alive, near⟩
    refine ⟨⟨?_, near⟩, p, ⟨rfl, rfl⟩, on, alive⟩
    by_contra same
    exact other (Prod.ext (by omega) (by omega))
  · rintro ⟨⟨other, near⟩, q, ⟨hx, hy⟩, on, alive⟩
    obtain rfl : p = q := Prod.ext (by omega) (by omega)
    refine ⟨on, ?_, alive, near⟩
    rintro rfl
    omega

/-- The count of a step is the number of other live cells within the radius. -/
theorem countLive_eq_card (fits : b.offsets = b.configuration.offsets) (x y : ℕ) :
    b.countLive x y = (b.liveAround x y).card := by
  have once : b.offsets.Nodup := by
    rw [fits]
    exact b.configuration.shape.nodup_offsets _
  have counted := once.card_eq_countP (P := fun o => b.isAlive (x + o.dx) (y + o.dy))
  simp only [Bool.decide_eq_true] at counted
  rw [countLive, ← counted]
  symm
  -- the offset to a cell is a bijection from the cells around to the offsets that lead to live ones
  refine Finset.card_nbij (offsetTo x y) ?_ ?_ ?_
  · intro p hp
    obtain ⟨listed, alive⟩ := (mem_liveAround fits).mp hp
    obtain ⟨hx, hy⟩ := offsetTo_eq_iff.mp (rfl : offsetTo x y p = offsetTo x y p)
    rw [← hx, ← hy] at alive
    exact Finset.mem_filter.mpr ⟨List.mem_toFinset.mpr listed, alive⟩
  · intro p _ q _ same
    obtain ⟨hx, hy⟩ := offsetTo_eq_iff.mp same
    simp only [offsetTo] at hx hy
    exact Prod.ext (by omega) (by omega)
  · intro o ho
    obtain ⟨listed, alive⟩ := Finset.mem_filter.mp ho
    obtain ⟨p, place, -⟩ := isAlive_iff.mp alive
    have here : offsetTo x y p = o := offsetTo_eq_iff.mpr place
    refine ⟨p, (mem_liveAround fits).mpr ⟨?_, ?_⟩, here⟩
    · rw [here]
      exact List.mem_toFinset.mp listed
    · rw [← place.1, ← place.2]
      exact alive

end Board

end LargerThanLife
