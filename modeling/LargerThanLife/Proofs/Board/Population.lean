import LargerThanLife.Proofs.Board.Views

/-! Live neighbours as a part of the population. The live cells of a board are, seen from one of its cells,
that cell itself if it is alive, its live neighbours, and those beyond the radius. So the neighbours and the
cell are never more than the population, and they are all of it when no two cells of the board are farther
apart than the radius. -/

namespace LargerThanLife

/-- On a board of the given size every cell has all others within the radius. -/
def Configuration.Overspreads (c : Configuration) (width height : ℕ) : Prop :=
  match c.shape with
  | .moore => max width height - 1 ≤ c.radius
  | .vonNeumann => (width - 1) + (height - 1) ≤ c.radius

theorem Configuration.Overspreads.separation_le {c : Configuration} {width height : ℕ} {p q : ℕ × ℕ}
    (overspread : c.Overspreads width height) (on : p.1 < width ∧ p.2 < height)
    (on' : q.1 < width ∧ q.2 < height) : c.shape.separation p q ≤ c.radius := by
  unfold Overspreads at overspread
  split at overspread
  · next square =>
    rw [square, Shape.separation, Nat.dist, Nat.dist]
    omega
  · next diamond =>
    rw [diamond, Shape.separation, Nat.dist, Nat.dist]
    omega

@[simp] theorem Shape.separation_self (shape : Shape) (p : ℕ × ℕ) : shape.separation p p = 0 := by
  cases shape <;> simp [separation]

namespace Board

variable {width height : ℕ} {c : Configuration} {b : Board} {x y : ℕ}

/-- The live cells of the board beyond the radius of a cell. -/
def liveBeyond (b : Board) (x y : ℕ) : Finset (ℕ × ℕ) :=
  b.liveCells.filter fun p => ¬b.configuration.shape.separation (x, y) p ≤ b.configuration.radius

/-- The live cells of the board within the radius of a cell, itself among them. -/
def liveNear (b : Board) (x y : ℕ) : Finset (ℕ × ℕ) :=
  b.liveCells.filter fun p => b.configuration.shape.separation (x, y) p ≤ b.configuration.radius

theorem card_liveNear (on : x < b.width ∧ y < b.height) : (b.liveNear x y).card =
    (b.liveAround x y).card + if b.get x y = .ok Cell.alive then 1 else 0 := by
  have others : b.liveAround x y = (b.liveNear x y).filter fun p => ¬p = (x, y) := by
    ext p
    simp only [liveAround, liveNear, liveCells, Finset.mem_filter]
    tauto
  have itself : ((b.liveNear x y).filter fun p => p = (x, y)).card =
      if b.get x y = .ok Cell.alive then 1 else 0 := by
    have listed : (x, y) ∈ b.liveNear x y ↔ b.get x y = .ok Cell.alive := by
      rw [liveNear, Finset.mem_filter, mem_liveCells, Shape.separation_self]
      simp [on]
    rw [Finset.filter_eq']
    simp only [listed]
    split <;> rfl
  rw [others, ← itself, Nat.add_comm]
  exact (Finset.card_filter_add_card_filter_not _).symm

/-- The live cells seen from one cell: its live neighbours, itself if it is alive, and the rest. -/
theorem population_eq_add (sound : Sound width height c b) (on : x < b.width ∧ y < b.height) :
    b.population = b.countLive x y + (if b.get x y = .ok Cell.alive then 1 else 0) +
      (b.liveBeyond x y).card := by
  rw [population_eq_card sound, countLive_eq_card sound.fits, ← card_liveNear on]
  exact (Finset.card_filter_add_card_filter_not _).symm

theorem liveBeyond_of_overspreads (overspread : b.configuration.Overspreads b.width b.height)
    (on : x < b.width ∧ y < b.height) : b.liveBeyond x y = ∅ := by
  refine Finset.filter_eq_empty_iff.mpr fun p live => not_not_intro ?_
  exact overspread.separation_le on (mem_liveCells.mp live).1

/-- On a board that some course of events led to, a cell and its neighbours are at most as many live cells
as the board has, and exactly as many if the neighbourhood of each cell is the whole board. -/
theorem neighbours_in_population (reach : b.Reachable) (on : x < b.width ∧ y < b.height) :
    ∃ live state, b.liveNeighbours x y = .ok live ∧ b.get x y = .ok state ∧
      live + (if state = Cell.alive then 1 else 0) ≤ b.population ∧
      (b.configuration.Overspreads b.width b.height →
        live + (if state = Cell.alive then 1 else 0) = b.population) := by
  have parts := population_eq_add reach.sound on
  simp only [get_of_mem on, Except.ok.injEq] at parts
  refine ⟨_, _, liveNeighbours_of_mem on, get_of_mem on, by omega, fun overspread => ?_⟩
  rw [liveBeyond_of_overspreads overspread on, Finset.card_empty] at parts
  exact parts.symm

/-- The decaying cell of the board `corner`, which two of its three live cells are too far from; and the
end of a row of three cells, as long as its neighbourhoods reach. -/
theorem neighbours_in_population_row :
    ∃ b : Board, corner.Reachable ∧ corner.liveNeighbours 2 1 = .ok 1 ∧ 1 ≤ corner.population ∧
      b.Reachable ∧ b.height = 1 ∧ b.configuration.Overspreads b.width b.height ∧
      b.liveNeighbours 0 0 = .ok 1 ∧ b.population = 2 := by
  let c : Configuration :=
    ⟨2, 0, false, ⟨2, 3, by decide⟩, ⟨3, 3, by decide⟩, .vonNeumann, by decide, by decide, by decide⟩
  let b := (blank 3 1 c).run [.raise 0 0, .raise 2 0]
  have reach : b.Reachable := ⟨.usual, 3, 1, c, _, _, rfl, rfl⟩
  have overspread : b.configuration.Overspreads b.width b.height := Nat.le_refl 2
  obtain ⟨live, state, count, -, le, -⟩ :=
    neighbours_in_population (x := 2) (y := 1) reachable_corner (by decide)
  obtain ⟨live', state', count', shown', -, whole⟩ :=
    neighbours_in_population (x := 0) (y := 0) reach (by decide)
  have one : corner.liveNeighbours 2 1 = .ok 1 := by decide
  have one' : b.liveNeighbours 0 0 = .ok 1 := by decide
  obtain rfl : 1 = live := Except.ok.inj (one.symm.trans count)
  obtain rfl : 1 = live' := Except.ok.inj (one'.symm.trans count')
  obtain rfl : 1 = state' := Except.ok.inj ((by decide : b.get 0 0 = .ok 1).symm.trans shown')
  exact ⟨b, reachable_corner, one, Nat.le_of_add_right_le le, reach, rfl, overspread, one',
    (whole overspread).symm⟩

end Board

end LargerThanLife
