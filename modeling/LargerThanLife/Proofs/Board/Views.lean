import LargerThanLife.Proofs.Board.Picture
import LargerThanLife.Proofs.Machine.Word

/-! Views of the grid. The cells of a board can be seen one by one, as one sequence, as rows, and by the
number of those alive. The rows are the sequence cut after every so many cells as the grid is wide; since
the sequence is as long as the grid is large, the last row is as long as the others, and a place in a row is
the place of a cell. A coordinate pair stands for one index and every index for one pair, so counting along
the sequence counts the coordinates. -/

namespace LargerThanLife

theorem Machine.flatten_pieces {α : Type} {length : ℕ} (positive : 0 < length) (s : List α) :
    (pieces length s).flatten = s := by
  induction s using pieces.induct length with
  | case1 s done =>
    obtain rfl := done.resolve_right positive.ne'
    rw [pieces, if_pos done]
    rfl
  | case2 s more ih =>
    rw [pieces, if_neg more, List.flatten_cons, ih, List.take_append_drop]

namespace Board

variable {width height : ℕ} {c : Configuration} {b : Board} {x y : ℕ}

/-! ### Rows -/

@[simp] theorem toList_row (b : Board) (y : ℕ) :
    (b.row y).toList = (b.cells.toList.drop (y * b.width)).take b.width := by
  rw [row, Array.toList_extract, List.extract_eq_take_drop, Nat.add_sub_cancel_left]

/-- The rows are cut off the sequence of cells one after another. -/
theorem toList_rows (sound : Sound width height c b) :
    b.rows.map Array.toList = Machine.pieces b.width b.cells.toList := by
  obtain rfl := sound.width_eq
  obtain rfl := sound.height_eq
  have wide : 0 < b.width := Nat.pos_of_mul_pos_right sound.area_pos
  have whole : b.cells.toList.length = b.height * b.width := by
    rw [Array.length_toList, sound.size_cells, Nat.mul_comm]
  rw [Machine.pieces_eq_map_range wide b.height whole, rows, List.map_map]
  exact List.map_congr_left fun y _ => toList_row b y

theorem size_row (sound : Sound width height c b) (on : y < b.height) :
    (b.row y).size = b.width := by
  have last : (y + 1) * b.width ≤ b.height * b.width := Nat.mul_le_mul_right _ on
  rw [Nat.succ_mul] at last
  rw [row, Array.size_extract, sound.size_cells, ← sound.width_eq, ← sound.height_eq]
  rw [Nat.mul_comm b.height] at last
  omega

theorem getElem?_row (sound : Sound width height c b) (on : x < b.width ∧ y < b.height) :
    (b.row y)[x]? = some (b.stateAt (y * b.width + x)) := by
  have inside : x < (b.row y).size := by
    rw [size_row sound on.2]
    exact on.1
  rw [row, Array.size_extract] at inside
  rw [row, Array.getElem?_extract, if_pos inside, sound.getElem?_cells on]

/-! ### Live cells -/

def liveCells (b : Board) : Finset (ℕ × ℕ) :=
  (Finset.range b.width ×ˢ Finset.range b.height).filter fun p => b.get p.1 p.2 = .ok Cell.alive

@[simp] theorem mem_liveCells {p : ℕ × ℕ} :
    p ∈ b.liveCells ↔ (p.1 < b.width ∧ p.2 < b.height) ∧ b.get p.1 p.2 = .ok Cell.alive := by
  rw [liveCells, Finset.mem_filter, Finset.mem_product, Finset.mem_range, Finset.mem_range]

theorem toList_cells (b : Board) : b.cells.toList = (List.range b.cells.size).map b.stateAt := by
  refine List.ext_getElem (by simp) fun i bound _ => ?_
  have inside : i < b.cells.size := by simpa using bound
  simp [stateAt, inside]

/-- The count along the sequence of cells is that of the coordinates of live cells. -/
theorem population_eq_card (sound : Sound width height c b) : b.population = b.liveCells.card := by
  obtain rfl := sound.width_eq
  obtain rfl := sound.height_eq
  have counted := (List.nodup_range (n := b.cells.size)).card_eq_countP
    (P := fun i => b.stateAt i = Cell.alive)
  have same : b.population = (List.range b.cells.size).countP fun i => b.stateAt i = Cell.alive := by
    rw [population, ← Array.count_toList, toList_cells, List.count, List.countP_map]
    rfl
  rw [same, ← counted]
  symm
  refine Finset.card_nbij (fun p => p.2 * b.width + p.1) ?_ ?_ ?_
  · intro p live
    obtain ⟨on, alive⟩ := mem_liveCells.mp live
    simp only [get_of_mem on, Except.ok.injEq] at alive
    refine Finset.mem_filter.mpr ⟨?_, alive⟩
    rw [List.mem_toFinset, List.mem_range]
    exact sound.index_lt_size on
  · intro p hp q hq same
    exact (index_eq_iff (mem_liveCells.mp hp).1 (mem_liveCells.mp hq).1).mp same
  · intro i hi
    obtain ⟨bound, alive⟩ := Finset.mem_filter.mp hi
    rw [List.mem_toFinset, List.mem_range, sound.size_cells] at bound
    obtain ⟨x, y, on, rfl⟩ := exists_place bound
    refine ⟨(x, y), mem_liveCells.mpr ⟨on, ?_⟩, rfl⟩
    simp [on, alive]

/-- On a board that some course of events led to, all views of the grid agree. The rows are the sequence
of cells cut after every so many cells as the grid is wide; they are as many as the grid is high, each of
them is as long as it is wide, and one after another they are the sequence again. A place in a row is that
of the cell with these coordinates, in the sequence too; and the cells counted as alive are those that the
coordinates show to be alive. -/
theorem views_agree (reach : b.Reachable) :
    b.rows.map Array.toList = Machine.pieces b.width b.cells.toList ∧
      b.rows.length = b.height ∧ (∀ row ∈ b.rows, row.size = b.width) ∧
      (b.rows.map Array.toList).flatten = b.cells.toList ∧
      (∀ x < b.width, ∀ y < b.height, ∃ row state, b.rows[y]? = some row ∧ row[x]? = some state ∧
        b.cells[y * b.width + x]? = some state ∧ b.get x y = .ok state) ∧
      b.population = ((Finset.range b.width ×ˢ Finset.range b.height).filter fun p =>
        b.get p.1 p.2 = .ok Cell.alive).card := by
  have sound := reach.sound
  have wide : 0 < b.width := Nat.pos_of_mul_pos_right sound.area_pos
  refine ⟨toList_rows sound, by rw [rows, List.length_map, List.length_range], ?_, ?_, ?_,
    population_eq_card sound⟩
  · intro row listed
    obtain ⟨y, below, rfl⟩ := List.mem_map.mp listed
    exact size_row sound (List.mem_range.mp below)
  · rw [toList_rows sound, Machine.flatten_pieces wide]
  · intro x hx y hy
    refine ⟨b.row y, _, ?_, getElem?_row sound ⟨hx, hy⟩, sound.getElem?_cells ⟨hx, hy⟩,
      get_of_mem ⟨hx, hy⟩⟩
    rw [rows, List.getElem?_map, List.getElem?_range hy, Option.map_some]

/-- The board `corner`, whose last cell decays in the last column of the second row. -/
theorem views_agree_corner :
    corner.Reachable ∧ Machine.pieces 3 corner.cells.toList = [[1, 1, 0], [1, 0, 3]] ∧
      (∃ row, corner.rows[1]? = some row ∧ row[2]? = some 3) ∧
      ((Finset.range 3 ×ˢ Finset.range 2).filter fun p =>
        corner.get p.1 p.2 = .ok Cell.alive).card = 3 := by
  obtain ⟨cut, -, -, -, places, counted⟩ := views_agree reachable_corner
  obtain ⟨row, state, listed, placed, -, shown⟩ := places 2 (by decide) 1 (by decide)
  have three : 3 = state := Except.ok.inj ((by decide : corner.get 2 1 = .ok 3).symm.trans shown)
  have rows : corner.rows.map Array.toList = [[1, 1, 0], [1, 0, 3]] := by decide
  have population : corner.population = 3 := by decide
  exact ⟨reachable_corner, cut.symm.trans rows, ⟨row, listed, three ▸ placed⟩,
    counted.symm.trans population⟩

end Board

end LargerThanLife
