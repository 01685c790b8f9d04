import LargerThanLife.Proofs.Board.Plane

/-! The course of a decaying cell. Once a cell decays, nothing around it matters any more: it goes from
stage to stage, one a step, and is dead after the last stage, whether aging is switched on or not. A
live cell that does not survive takes this course from its beginning if live cells decay, and is dead at
once if they do not. So there is no way from decay back to life but through death. -/

namespace LargerThanLife

namespace Configuration

variable {c : Configuration} {state live : ℕ}

theorem transition_of_decaying (decaying : 2 ≤ state) :
    c.transition state live = if state < c.depth then state + 1 else 0 := by
  rw [transition_eq_rule, rule, if_neg (by omega), if_neg (by omega)]

theorem transition_of_outside
    (outside : live < c.survival.min.toNat ∨ c.survival.max.toNat < live) :
    c.transition Cell.alive live = if c.ages then Cell.firstDecay else Cell.dead := by
  have failed : ¬(c.survival.min.toNat ≤ live ∧ live ≤ c.survival.max.toNat) := by omega
  rw [transition_eq_rule, rule, if_neg Nat.one_ne_zero, if_pos rfl, if_neg failed]
  simp only [ages, Bool.and_eq_true, decide_eq_true_eq]

/-- Only dead and live cells can be alive in the next generation. -/
theorem lt_two_of_transition_eq_one (revived : c.transition state live = 1) : state < 2 := by
  by_contra decaying
  rw [transition_of_decaying (Nat.le_of_not_lt decaying)] at revived
  split at revived
  · obtain rfl : state = 0 := Nat.succ.inj revived
    exact decaying Nat.zero_lt_two
  · exact Nat.zero_ne_one revived

end Configuration

namespace Board

variable {width height : ℕ} {c : Configuration} {b : Board} {x y s : ℕ}

/-- A cell that is at a stage goes through all later stages, one a step, and is dead right after the
last one. -/
structure Fades (b : Board) (x y stage : ℕ) : Prop where
  within : stage ≤ b.configuration.depth
  stages : ∀ k, stage + k ≤ b.configuration.depth → (stepN k b).get x y = .ok (stage + k)
  dead : (stepN (b.configuration.depth - stage + 1) b).get x y = .ok Cell.dead

theorem stepN_succ_eq_step (n : ℕ) (b : Board) : stepN (n + 1) b = (stepN n b).step := by
  induction n generalizing b with
  | zero => rfl
  | succ n ih => exact ih b.step

theorem exists_get_eq_ok (sound : Sound width height c b) (on : x < width ∧ y < height) :
    ∃ s, b.get x y = .ok s :=
  ⟨_, get_of_mem (sound.on_iff.mpr on)⟩

theorem get_step_of_get (sound : Sound width height c b) (on : x < width ∧ y < height)
    (now : b.get x y = .ok s) : b.step.get x y = .ok (c.transition s (b.countLive x y)) := by
  obtain rfl := sound.width_eq
  obtain rfl := sound.height_eq
  obtain rfl := sound.configuration_eq
  rw [get_of_mem on] at now
  rw [get_step sound on, nextState, Except.ok.inj now]

/-- A cell that is at the next stage a step later, and fades from there, fades from now on. -/
theorem Fades.of_step (now : b.get x y = .ok s) (later : Fades b.step x y (s + 1)) :
    Fades b x y s := by
  have within : s + 1 ≤ b.configuration.depth := later.within
  refine ⟨Nat.le_of_succ_le within, ?_, ?_⟩
  · rintro (_ | k) le
    · exact now
    · rw [← Nat.add_assoc, Nat.add_right_comm] at le ⊢
      exact later.stages k le
  · have left : b.configuration.depth - s = b.configuration.depth - (s + 1) + 1 := by omega
    rw [left]
    exact later.dead

theorem fades_of_decaying (sound : Sound width height c b) (on : x < width ∧ y < height)
    (decaying : 2 ≤ s) (within : s ≤ c.depth) (now : b.get x y = .ok s) : Fades b x y s := by
  have next := get_step_of_get sound on now
  rw [Configuration.transition_of_decaying decaying] at next
  obtain ⟨left, depth_eq⟩ := Nat.exists_eq_add_of_le within
  -- induction on the number of stages that are left, from one board to the next
  induction left generalizing b s with
  | zero =>
    have last : b.configuration.depth = s := by rw [sound.configuration_eq, depth_eq, Nat.add_zero]
    rw [if_neg (by omega)] at next
    refine ⟨last.ge, ?_, ?_⟩
    · intro k le
      obtain rfl : k = 0 := by omega
      exact now
    · rw [last, Nat.sub_self]
      exact next
  | succ left ih =>
    rw [if_pos (by omega)] at next
    have later := get_step_of_get sound.step on next
    rw [Configuration.transition_of_decaying (Nat.le_succ_of_le decaying)] at later
    exact .of_step now (ih sound.step (Nat.le_succ_of_le decaying) (by omega) next later (by omega))

/-- Between a step before which a cell is not alive and a later one before which it is, it is dead
before some step. -/
theorem exists_dead_between (sound : Sound width height c b) (on : x < width ∧ y < height) {i j : ℕ}
    (before : i < j) (gone : (stepN i b).get x y ≠ .ok Cell.alive)
    (revived : (stepN j b).get x y = .ok Cell.alive) :
    ∃ k, i ≤ k ∧ k < j ∧ (stepN k b).get x y = .ok Cell.dead := by
  induction j with
  | zero => exact absurd before (Nat.not_lt_zero i)
  | succ j ih =>
    obtain ⟨s, now⟩ := exists_get_eq_ok (sound.stepN j) on
    rw [stepN_succ_eq_step, get_step_of_get (sound.stepN j) on now] at revived
    have young := Configuration.lt_two_of_transition_eq_one (Except.ok.inj revived)
    -- the cell comes from death, or from life, and then the question is when that began
    obtain rfl | rfl : s = 0 ∨ s = 1 := Nat.le_one_iff_eq_zero_or_eq_one.mp (Nat.le_of_lt_succ young)
    · exact ⟨j, Nat.le_of_lt_succ before, Nat.lt_succ_self j, now⟩
    · have earlier : i < j := by
        refine lt_of_le_of_ne (Nat.le_of_lt_succ before) ?_
        rintro rfl
        exact gone now
      obtain ⟨k, from_i, to_j, dead⟩ := ih earlier now
      exact ⟨k, from_i, Nat.lt_succ_of_lt to_j, dead⟩

/-- Whatever is around it, a decaying cell fades; a live cell that does not survive fades if live cells
decay, and is dead after a step if they do not; and a cell that is no longer alive is not alive again
before it has been dead. -/
theorem fades_course (reach : b.Reachable) (on : x < b.width ∧ y < b.height) :
    (∀ s : ℕ, 2 ≤ s → b.get x y = .ok s → Fades b x y s) ∧
      (∀ live, b.get x y = .ok Cell.alive → b.liveNeighbours x y = .ok live →
        live < b.configuration.survival.min.toNat ∨ b.configuration.survival.max.toNat < live →
          (b.configuration.ages = true → Fades b x y Cell.alive) ∧
          (b.configuration.ages = false → b.step.get x y = .ok Cell.dead)) ∧
      ∀ i j, i < j → (stepN i b).get x y ≠ .ok Cell.alive → (stepN j b).get x y = .ok Cell.alive →
        ∃ k, i ≤ k ∧ k < j ∧ (stepN k b).get x y = .ok Cell.dead := by
  have sound := reach.sound
  refine ⟨?_, ?_, fun i j before gone revived => exists_dead_between sound on before gone revived⟩
  · intro s decaying now
    -- a stage past the depth is no state of the ruleset
    have state_eq : b.plane x y = s := Except.ok.inj ((get_eq_plane on).symm.trans now)
    have state_le : s ≤ max b.configuration.depth 1 := state_eq ▸ plane_le_maxState sound x y
    exact fades_of_decaying sound on decaying (by omega) now
  · intro live now count outside
    rw [liveNeighbours_of_mem on] at count
    have next := get_step_of_get sound on now
    rw [Except.ok.inj count, Configuration.transition_of_outside outside] at next
    constructor
    · intro ages
      rw [if_pos ages] at next
      have deep : 2 ≤ b.configuration.depth := by
        simp only [Configuration.ages, Bool.and_eq_true, decide_eq_true_eq] at ages
        exact ages.2
      exact .of_step now (fades_of_decaying sound.step on le_rfl deep next)
    · intro stays
      rwa [stays] at next

/-- A cell at the second of three stages, a lone live cell with aging and without it, and a decaying cell
between three live ones that is alive again after two steps. -/
theorem fades_course_corner :
    ∃ b b' : Board, b.Reachable ∧ b'.Reachable ∧
      b.get 3 1 = .ok 2 ∧ Fades b 3 1 2 ∧
      b.get 5 0 = .ok 1 ∧ b.liveNeighbours 5 0 = .ok 0 ∧ Fades b 5 0 1 ∧
      b'.configuration.ages = false ∧ b'.get 5 0 = .ok 1 ∧ b'.step.get 5 0 = .ok 0 ∧
      b.get 1 1 = .ok 3 ∧ (stepN 2 b).get 1 1 = .ok 1 ∧
        ∃ k < 2, (stepN k b).get 1 1 = .ok 0 := by
  let edits : List Operation :=
    [.raise 0 0, .raise 1 0, .raise 0 1, .set 1 1 3, .set 3 1 2, .raise 5 0]
  let b := (blank 6 2 .decaying).run edits
  let b' := (blank 6 2 { Configuration.decaying with aging := false }).run edits
  have reach : b.Reachable := ⟨.usual, 6, 2, _, _, edits, rfl, rfl⟩
  have reach' : b'.Reachable := ⟨.usual, 6, 2, _, _, edits, rfl, rfl⟩
  obtain ⟨second, -, -⟩ := fades_course (x := 3) (y := 1) reach (by decide +kernel)
  obtain ⟨-, lone, -⟩ := fades_course (x := 5) (y := 0) reach (by decide +kernel)
  obtain ⟨-, lone', -⟩ := fades_course (x := 5) (y := 0) reach' (by decide +kernel)
  obtain ⟨-, -, between⟩ := fades_course (x := 1) (y := 1) reach (by decide +kernel)
  have decaying : b.get 3 1 = .ok 2 := by decide +kernel
  have alive : b.get 5 0 = .ok 1 ∧ b.liveNeighbours 5 0 = .ok 0 := by decide +kernel
  have alive' : b'.get 5 0 = .ok 1 ∧ b'.liveNeighbours 5 0 = .ok 0 := by decide +kernel
  have revived : b.get 1 1 = .ok 3 ∧ (stepN 2 b).get 1 1 = .ok 1 := by decide +kernel
  obtain ⟨k, -, before, dead⟩ := between 0 2 (by decide) (by decide +kernel) revived.2
  exact ⟨b, b', reach, reach', decaying, second 2 le_rfl decaying, alive.1, alive.2,
    (lone 0 alive.1 alive.2 (by decide +kernel)).1 (by decide +kernel), by decide +kernel, alive'.1,
    (lone' 0 alive'.1 alive'.2 (by decide +kernel)).2 (by decide +kernel), revived.1, revived.2, k, before,
    dead⟩

end Board

end LargerThanLife
