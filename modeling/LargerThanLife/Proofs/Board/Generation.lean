import LargerThanLife.Proofs.Board.Invariant
import LargerThanLife.Proofs.Board.Neighbours

/-! A generation as a rule on the grid. The rule of a ruleset is stated here by comparing numbers, and
the live neighbours of a cell are a set of cells; a step, which walks over indices and offsets and
writes into the scratch room, gives every cell the state that the rule has for it. -/

namespace LargerThanLife

namespace Configuration

/-- The state that follows `state` when `live` of the cells around are alive. -/
def rule (c : Configuration) (state live : ℕ) : ℕ :=
  if state = 0 then
    if c.birth.min.toNat ≤ live ∧ live ≤ c.birth.max.toNat then 1 else 0
  else if state = 1 then
    if c.survival.min.toNat ≤ live ∧ live ≤ c.survival.max.toNat then 1
    else if c.aging = true ∧ 2 ≤ c.depth then 2
    else 0
  else if state < c.depth then state + 1
  else 0

theorem transition_eq_rule (c : Configuration) (state live : ℕ) :
    c.transition state live = c.rule state live := by
  match state with
  | 0 => simp [transition, rule, Interval.contains]
  | 1 => simp [transition, rule, Interval.contains, ages]
  | s + 2 =>
    simp only [transition, rule, Nat.add_eq_zero_iff, OfNat.ofNat_ne_zero, and_false, if_false,
      Nat.reduceEqDiff]
    by_cases last : c.depth ≤ s + 2
    · rw [if_pos last, if_neg (Nat.not_lt.mpr last)]
    · rw [if_neg last, if_pos (Nat.lt_of_not_le last)]

/-- A dead cell with nothing alive around it is born if cells are born of nothing. -/
theorem transition_dead_zero (c : Configuration) :
    c.transition Cell.dead 0 = if c.birth.min = 0 then Cell.alive else Cell.dead := by
  simp [transition]

end Configuration

namespace Board

variable {b : Board} {x y : ℕ}

theorem column_row_of_index (on : x < b.width ∧ y < b.height) :
    (y * b.width + x) % b.width = x ∧ (y * b.width + x) / b.width = y := by
  constructor
  · rw [Nat.mul_comm, Nat.mul_add_mod, Nat.mod_eq_of_lt on.1]
  · rw [Nat.mul_comm, Nat.mul_add_div (Nat.zero_lt_of_lt on.1), Nat.div_eq_of_lt on.1, Nat.add_zero]

/-- Every index is that of a cell. -/
theorem exists_place {width height i : ℕ} (bound : i < width * height) :
    ∃ x y, (x < width ∧ y < height) ∧ y * width + x = i := by
  have wide : 0 < width := Nat.pos_of_mul_pos_right (Nat.zero_lt_of_lt bound)
  exact ⟨i % width, i / width, ⟨Nat.mod_lt i wide, Nat.div_lt_of_lt_mul bound⟩,
    Nat.div_add_mod' i width⟩

theorem get_step (sound : Sound b.width b.height b.configuration b)
    (on : x < b.width ∧ y < b.height) : b.step.get x y = .ok (b.nextState x y) := by
  have place : y * b.width + x < b.scratch.size := by
    rw [sound.size_scratch]
    exact index_lt on
  obtain ⟨column, row⟩ := column_row_of_index on
  rw [get_of_mem (b := b.step) on, show b.step.width = b.width from rfl, stateAt_step place, column, row]

/-- On a board that some course of events led to, the live neighbours of a cell are counted as the
other live cells within the radius, and a step gives the cell the state that the rule has for its
state and that number. -/
theorem step_eq_rule (reach : b.Reachable) (on : x < b.width ∧ y < b.height) :
    b.liveNeighbours x y = .ok (b.liveAround x y).card ∧
      ∃ state, b.get x y = .ok state ∧
        b.step.get x y = .ok (b.configuration.rule state (b.liveAround x y).card) := by
  have sound := reach.sound
  have count := countLive_eq_card sound.offsets_eq x y
  refine ⟨?_, b.stateAt (y * b.width + x), get_of_mem on, ?_⟩
  -- the count and the rule are read off the board as it is before the step
  · simp [on, count]
  · rw [get_step sound on, nextState, Configuration.transition_eq_rule, count]

/-- A dead cell with three live ones around it is born, next to a decaying one that is not counted. -/
theorem step_eq_rule_birth :
    corner.Reachable ∧ corner.liveNeighbours 1 1 = .ok 3 ∧ (corner.liveAround 1 1).card = 3 ∧
      corner.step.get 1 1 = .ok 1 := by
  obtain ⟨counted, state, now, next⟩ :=
    step_eq_rule (x := 1) (y := 1) reachable_corner (by decide)
  have three : corner.liveNeighbours 1 1 = .ok 3 := by decide
  have card : (corner.liveAround 1 1).card = 3 := Except.ok.inj (counted.symm.trans three)
  have dead : 0 = state := Except.ok.inj ((by decide : corner.get 1 1 = .ok 0).symm.trans now)
  rw [card, ← dead] at next
  exact ⟨reachable_corner, three, card, next⟩

end Board

end LargerThanLife
