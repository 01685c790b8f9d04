import LargerThanLife.Proofs.Board.Census

/-! Extinction. Decaying cells are not counted, so a board without live cells has only counts of zero,
and whether a cell is born of nothing decides its future. If none is, nothing is ever alive again, and
what decays runs out; if some are, a dead board comes to life at once and everywhere. -/

namespace LargerThanLife

/-- Only a live cell can be alive next where nothing is alive around it, if no cell is born of nothing. -/
theorem Configuration.transition_zero_ne_alive {c : Configuration} {state : ℕ}
    (quiet : 0 < c.birth.min) (lifeless : state ≠ Cell.alive) :
    c.transition state 0 ≠ Cell.alive := by
  intro revived
  have young := lt_two_of_transition_eq_one revived
  obtain rfl : state = 0 := by
    change state ≠ 1 at lifeless
    omega
  rw [transition_dead_zero, if_neg (UInt16.pos_iff_ne_zero.mp quiet)] at revived
  exact Nat.zero_ne_one revived

namespace Board

variable {width height : ℕ} {c : Configuration} {b : Board} {state : Cell}

theorem countLive_of_lifeless (sound : Sound width height c b)
    (lifeless : b.Everywhere (· ≠ Cell.alive)) (x y : ℕ) : b.countLive x y = 0 := by
  refine List.countP_eq_zero.mpr fun o _ counted => ?_
  obtain ⟨p, -, -, alive⟩ := isAlive_iff.mp counted
  exact lifeless.of_get sound alive rfl

theorem lifeless_step (sound : Sound width height c b) (quiet : 0 < c.birth.min)
    (lifeless : b.Everywhere (· ≠ Cell.alive)) : b.step.Everywhere (· ≠ Cell.alive) := by
  refine lifeless.step sound fun x y state other => ?_
  rw [countLive_of_lifeless sound lifeless]
  exact Configuration.transition_zero_ne_alive quiet other

theorem lifeless_stepN (sound : Sound width height c b) (quiet : 0 < c.birth.min)
    (lifeless : b.Everywhere (· ≠ Cell.alive)) (n : ℕ) :
    (stepN n b).Everywhere (· ≠ Cell.alive) := by
  induction n generalizing b with
  | zero => exact lifeless
  | succ n ih => exact ih sound.step (lifeless_step sound quiet lifeless)

/-- What has been decaying on a board without live cells is dead after as many steps as there are
stages. -/
theorem dead_of_lifeless (sound : Sound width height c b) (quiet : 0 < c.birth.min)
    (lifeless : b.Everywhere (· ≠ Cell.alive)) {n : ℕ} (long : c.maxState - 1 ≤ n) :
    (stepN n b).Everywhere (· = Cell.dead) := by
  have never := lifeless_stepN sound quiet lifeless
  have settled := le_alive_of_calm sound long fun k _ => .inr (never k)
  intro state mem
  exact Nat.lt_one_iff.mp (lt_of_le_of_ne (settled state mem) (never n state mem))

theorem Everywhere.cells_eq (sound : Sound width height c b) (all : b.Everywhere (· = state)) :
    b.cells = Array.replicate (width * height) state :=
  Array.eq_replicate_iff.mpr ⟨sound.size_cells, all⟩

/-- The cells of a dead board take the same turn everywhere. -/
theorem step_of_dead (sound : Sound width height c b) (dead : b.Everywhere (· = Cell.dead)) :
    b.step.Everywhere (· = if c.birth.min = 0 then Cell.alive else Cell.dead) := by
  have lifeless : b.Everywhere (· ≠ Cell.alive) := by
    intro state mem
    rw [dead state mem]
    exact Nat.zero_ne_one
  refine dead.step sound ?_
  rintro x y _ rfl
  rw [countLive_of_lifeless sound lifeless, Configuration.transition_dead_zero]

theorem step_cells_eq_iff_of_dead (sound : Sound width height c b)
    (dead : b.Everywhere (· = Cell.dead)) : b.step.cells = b.cells ↔ 0 < c.birth.min := by
  have next := (step_of_dead sound dead).cells_eq sound.step
  rw [next, dead.cells_eq sound, UInt16.pos_iff_ne_zero]
  by_cases born : c.birth.min = 0
  · simp [born, sound.area_pos.ne']
  · simp [born]

/-- On a board that some course of events led to, where nothing is alive and no cell is born of
nothing, nothing is ever alive again, and everything is dead after as many steps as there are stages of
decay. A dead board stays as it is if and only if no cell is born of nothing, and otherwise is all alive
after a step. -/
theorem extinct_course (reach : b.Reachable) :
    (0 < b.configuration.birth.min → b.Everywhere (· ≠ Cell.alive) →
      (∀ n, (stepN n b).Everywhere (· ≠ Cell.alive)) ∧
        ∀ n, b.configuration.maxState - 1 ≤ n → (stepN n b).Everywhere (· = Cell.dead)) ∧
      (b.Everywhere (· = Cell.dead) →
        (b.step.cells = b.cells ↔ 0 < b.configuration.birth.min) ∧
          (b.configuration.birth.min = 0 → b.step.Everywhere (· = Cell.alive))) := by
  have sound := reach.sound
  refine ⟨fun quiet lifeless => ⟨lifeless_stepN sound quiet lifeless,
    fun n long => dead_of_lifeless sound quiet lifeless long⟩,
    fun dead => ⟨step_cells_eq_iff_of_dead sound dead, fun born => ?_⟩⟩
  have next := step_of_dead sound dead
  rwa [if_pos born] at next

/-- Two decaying cells that are gone after two steps and not before, the same board after a reset, and a
dead board on which cells are born of nothing. -/
theorem extinct_course_decaying :
    ∃ b b' : Board, b.Reachable ∧ b'.Reachable ∧
      b.get 0 0 = .ok 2 ∧ b.Everywhere (· ≠ Cell.alive) ∧ ¬b.step.Everywhere (· = Cell.dead) ∧
      (∀ n, (stepN n b).Everywhere (· ≠ Cell.alive)) ∧ (stepN 2 b).Everywhere (· = Cell.dead) ∧
      b.reset.step.cells = b.reset.cells ∧
      b'.configuration.birth.min = 0 ∧ b'.Everywhere (· = Cell.dead) ∧
      b'.step.cells ≠ b'.cells ∧ b'.step.Everywhere (· = Cell.alive) := by
  let start := blank 3 2 { Configuration.decaying with birth := ⟨0, 3, by decide⟩ }
  let b := (blank 3 2 .decaying).run [.set 0 0 2, .set 2 1 3]
  have reach : b.Reachable := ⟨.usual, 3, 2, _, _, _, rfl, rfl⟩
  have reach' : start.Reachable := ⟨.usual, 3, 2, _, _, [], rfl, rfl⟩
  have quiet : 0 < b.configuration.birth.min := by decide +kernel
  have lifeless : b.Everywhere (· ≠ Cell.alive) := by decide +kernel
  have dead' : start.Everywhere (· = Cell.dead) := by decide +kernel
  have born : start.configuration.birth.min = 0 := rfl
  obtain ⟨never, gone⟩ := (extinct_course reach).1 quiet lifeless
  obtain ⟨stays, -⟩ := (extinct_course (reach.after .reset)).2 (everywhere_reset b)
  obtain ⟨stays', alive⟩ := (extinct_course reach').2 dead'
  refine ⟨b, start, reach, reach', by decide +kernel, lifeless, by decide +kernel, never,
    gone 2 (by decide +kernel), stays.mpr quiet, born, dead', ?_, alive born⟩
  rw [ne_eq, stays', born]
  decide

end Board

end LargerThanLife
