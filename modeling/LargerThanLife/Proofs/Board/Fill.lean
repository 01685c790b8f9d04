import LargerThanLife.Proofs.Board.Invariant
import Mathlib.Tactic.Common

/-! Random fills as pieces of one stream. Every cell takes two words of the key stream, whatever its state
was and however the coin falls; so what a cell becomes is decided by the generator and the index alone. A
fill is the beginning of a sequence of states that has no end and knows nothing of the board, of which a
larger board takes more, and the next fill from the same generator takes it up where the last one stopped. -/

namespace LargerThanLife

namespace Generator

/-- The state that the coin gives which is tossed after `i` others. -/
def cellAt (g : Generator) (i : ℕ) : Cell :=
  if (toss .half (g.skip (2 * i))).1 then Cell.alive else Cell.dead

def cellsOf (g : Generator) (count : ℕ) : List Cell := (List.range count).map g.cellAt

theorem cellAt_skip (g : Generator) (m i : ℕ) : (g.skip (2 * m)).cellAt i = g.cellAt (m + i) := by
  simp [cellAt, Nat.mul_add]

/-- The coins that follow some others are those of the generator after these. -/
theorem cellsOf_add (g : Generator) (m n : ℕ) :
    g.cellsOf (m + n) = g.cellsOf m ++ (g.skip (2 * m)).cellsOf n := by
  rw [cellsOf, cellsOf, cellsOf, List.range_add, List.map_append, List.map_map]
  refine congrArg (_ ++ ·) (List.map_congr_left fun i _ => ?_)
  rw [Function.comp_apply, cellAt_skip]

theorem take_cellsOf (g : Generator) {m n : ℕ} (le : m ≤ n) : (g.cellsOf n).take m = g.cellsOf m := by
  rw [cellsOf, ← List.map_take, List.take_range, Nat.min_eq_left le, cellsOf]

theorem dead_or_alive_of_mem_cellsOf {g : Generator} {count : ℕ} {state : Cell}
    (mem : state ∈ g.cellsOf count) : state = Cell.dead ∨ state = Cell.alive := by
  obtain ⟨i, -, rfl⟩ := List.mem_map.mp mem
  unfold cellAt
  split
  · exact .inr rfl
  · exact .inl rfl

end Generator

namespace Board

theorem tossCells_eq (count : ℕ) (cells : Array Cell) (g : Generator) :
    tossCells count cells g = (cells ++ (g.cellsOf count).toArray, g.skip (2 * count)) := by
  induction count generalizing cells g with
  | zero => exact Prod.ext Array.append_empty.symm rfl
  | succ count ih =>
    -- the first coin gives the next cell, and the others are tossed after two words
    have first : g.cellsOf (count + 1) = g.cellAt 0 :: (g.skip 2).cellsOf count := by
      rw [Nat.add_comm, Generator.cellsOf_add]
      rfl
    have rest := ih (cells.push (g.cellAt 0)) (g.skip 2)
    rw [Generator.skip_skip, List.push_append_toArray] at rest
    rw [first, Nat.mul_succ, Nat.add_comm (2 * count)]
    exact rest

/-- A fill takes the beginning of the sequence, and uses up as much of the stream. -/
theorem fill_eq (b : Board) (g : Generator) :
    b.fill g = ({ b with cells := (g.cellsOf b.cells.size).toArray }, g.skip (2 * b.cells.size)) := by
  rw [fill, tossCells_eq]
  simp

/-- What a fill puts into the cells of a board depends on the generator and on their number only. From one
seed a board gets the beginning of what a larger one gets, each cell dead or alive; nothing else of the
board changes. Two boards that are filled one after another from one generator get together what one board
of both sizes gets. -/
theorem fills_of_one_stream :
    (∀ (seed : UInt64) (b b' : Board), b.cells.size ≤ b'.cells.size →
      (b.randomize seed).cells.toList = (b'.randomize seed).cells.toList.take b.cells.size) ∧
    (∀ (seed : UInt64) (b : Board), b.randomize seed = { b with cells := (b.randomize seed).cells } ∧
      (b.randomize seed).cells.size = b.cells.size ∧
      (b.randomize seed).Everywhere fun state => state = Cell.dead ∨ state = Cell.alive) ∧
    ∀ (g : Generator) (b b' whole : Board), whole.cells.size = b.cells.size + b'.cells.size →
      (whole.fill g).1.cells.toList =
        (b.fill g).1.cells.toList ++ (b'.fill (b.fill g).2).1.cells.toList := by
  refine ⟨fun seed b b' fewer => ?_, fun seed b => ⟨?_, ?_, ?_⟩, fun g b b' whole both => ?_⟩
  · simp only [randomize, fill_eq]
    exact ((Generator.ofSeed seed).take_cellsOf fewer).symm
  · simp only [randomize, fill_eq]
  · simp only [randomize, fill_eq, List.size_toArray, Generator.cellsOf, List.length_map,
      List.length_range]
  · intro state mem
    simp only [randomize, fill_eq, List.mem_toArray] at mem
    exact Generator.dead_or_alive_of_mem_cellsOf mem
  · simp only [fill_eq]
    rw [both, Generator.cellsOf_add]

/-- Boards of different shapes, rulesets and histories: the smaller one holds a decaying cell and gets the
first six cells of the larger one, and the two together get what a row of fourteen cells gets. -/
theorem fills_of_one_stream_corner :
    ∃ b' whole : Board, corner.Reachable ∧ b'.Reachable ∧ whole.Reachable ∧ corner.cells.size = 6 ∧
      b'.cells.size = 8 ∧ whole.cells.size = 14 ∧ corner.get 2 1 = .ok 3 ∧
      (corner.randomize 7).cells.toList = (b'.randomize 7).cells.toList.take 6 ∧
      (corner.randomize 7).Everywhere (fun state => state = Cell.dead ∨ state = Cell.alive) ∧
      (whole.fill (.ofSeed 7)).1.cells.toList =
        (corner.randomize 7).cells.toList ++ (b'.fill (corner.fill (.ofSeed 7)).2).1.cells.toList := by
  let c : Configuration :=
    ⟨2, 0, false, ⟨2, 3, by decide⟩, ⟨0, 3, by decide⟩, .vonNeumann, by decide, by decide, by decide⟩
  let b' := (blank 2 4 c).run [.step, .kill 1 3]
  let whole := (blank 14 1 c).run []
  have size : corner.cells.size = 6 := by decide
  have size' : b'.cells.size = 8 := by decide
  have both : whole.cells.size = 14 := by decide
  obtain ⟨shorter, settled, one_stream⟩ := fills_of_one_stream
  refine ⟨b', whole, reachable_corner, ⟨.usual, 2, 4, c, _, _, rfl, rfl⟩,
    ⟨.usual, 14, 1, c, _, _, rfl, rfl⟩, size, size', both, by decide, shorter 7 corner b' ?_,
    (settled 7 corner).2.2, one_stream (.ofSeed 7) corner b' whole ?_⟩
  · rw [size, size']
    decide
  · rw [size, size', both]

end Board

end LargerThanLife
