import LargerThanLife.Proofs.Board.TwoStates

/-! Rules that only look for enough live neighbours. When no count is too great, and a live cell needs no
more live neighbours to stay alive than a dead one to be born, more life never hurts: of two boards
without decay, one of which is alive wherever the other one is, this remains true for ever. The first
board may have dead cells where the second has live ones, which is why the two thresholds are compared. -/

namespace LargerThanLife

namespace Configuration

variable {c : Configuration} {s t live more : ℕ}

/-- Live cells do not decay, no count of live neighbours is too great, and what suffices for birth
suffices for survival. -/
structure Threshold (c : Configuration) : Prop where
  ages_eq : c.ages = false
  survival_max : c.neighbourCount ≤ c.survival.max.toNat
  birth_max : c.neighbourCount ≤ c.birth.max.toNat
  ordered : c.survival.min ≤ c.birth.min

/-- The next state of a cell is life if it has enough live neighbours. -/
theorem Threshold.transition_eq_alive_iff (threshold : c.Threshold) (bound : live ≤ c.neighbourCount) :
    c.transition s live = Cell.alive ↔
      s = Cell.dead ∧ c.birth.min.toNat ≤ live ∨ s = Cell.alive ∧ c.survival.min.toNat ≤ live := by
  have survives : live ≤ c.survival.max.toNat := bound.trans threshold.survival_max
  have born : live ≤ c.birth.max.toNat := bound.trans threshold.birth_max
  constructor
  · intro next
    have young := lt_two_of_transition_eq_one next
    obtain rfl | rfl : s = 0 ∨ s = 1 := by omega
    · simpa [transition, Interval.contains, born] using next
    · simpa [transition, Interval.contains, survives, threshold.ages_eq] using next
  · rintro (⟨rfl, enough⟩ | ⟨rfl, enough⟩)
    · simp [transition, Interval.contains, born, enough]
    · simp [transition, Interval.contains, survives, enough]

/-- A cell that is alive next with fewer live neighbours is so with more, also if it is alive now where
it was dead. -/
theorem Threshold.transition_mono (threshold : c.Threshold) (within : s = Cell.alive → t = Cell.alive)
    (young : t ≤ Cell.alive) (le : live ≤ more) (bound : more ≤ c.neighbourCount)
    (next : c.transition s live = Cell.alive) : c.transition t more = Cell.alive := by
  have ordered : c.survival.min.toNat ≤ c.birth.min.toNat :=
    UInt16.le_iff_toNat_le.mp threshold.ordered
  rw [threshold.transition_eq_alive_iff (le.trans bound)] at next
  rw [threshold.transition_eq_alive_iff bound]
  -- a cell that is alive where there is more life is asked to survive, and birth asks for no less
  rcases Nat.le_one_iff_eq_zero_or_eq_one.mp young with dead | alive
  · rcases next with ⟨-, born⟩ | ⟨other, -⟩
    · exact .inl ⟨dead, born.trans le⟩
    · exact absurd (dead.symm.trans (within other)) Nat.zero_ne_one
  · refine .inr ⟨alive, ?_⟩
    rcases next with ⟨-, born⟩ | ⟨-, survives⟩
    · exact ordered.trans (born.trans le)
    · exact survives.trans le

end Configuration

namespace Board

variable {width height : ℕ} {c : Configuration} {b b' : Board}

/-- Every live cell of the first board is alive on the second. -/
def LiveWithin (b b' : Board) : Prop :=
  ∀ x < b.width, ∀ y < b.height, b.get x y = .ok Cell.alive → b'.get x y = .ok Cell.alive

theorem LiveWithin.liveAround_subset (sound : Sound width height c b)
    (sound' : Sound width height c b') (within : LiveWithin b b') (x y : ℕ) :
    b.liveAround x y ⊆ b'.liveAround x y := by
  intro p around
  simp only [liveAround, Finset.mem_filter, Finset.mem_product, Finset.mem_range, sound'.width_eq,
    sound'.height_eq, sound'.configuration_eq] at around ⊢
  obtain ⟨on, other, alive, near⟩ := around
  rw [sound.configuration_eq] at near
  exact ⟨sound.on_iff.mp on, other, within _ on.1 _ on.2 alive, near⟩

theorem LiveWithin.countLive_le (sound : Sound width height c b) (sound' : Sound width height c b')
    (within : LiveWithin b b') (x y : ℕ) : b.countLive x y ≤ b'.countLive x y := by
  rw [countLive_eq_card sound.fits, countLive_eq_card sound'.fits]
  exact Finset.card_le_card (within.liveAround_subset sound sound' x y)

theorem LiveWithin.step (sound : Sound width height c b) (sound' : Sound width height c b')
    (threshold : c.Threshold) (young : b'.Everywhere (· ≤ Cell.alive)) (within : LiveWithin b b') :
    LiveWithin b.step b'.step := by
  intro x hx y hy next
  have on := sound.on_iff.mp ⟨hx, hy⟩
  obtain ⟨s, now⟩ := exists_get_eq_ok sound on
  obtain ⟨t, now'⟩ := exists_get_eq_ok sound' on
  have le := within.countLive_le sound sound' x y
  have bound : b'.countLive x y ≤ c.neighbourCount := by
    rw [← sound'.configuration_eq]
    exact countLive_le_neighbourCount sound'.fits x y
  have alive : s = Cell.alive → t = Cell.alive := by
    rintro rfl
    exact Except.ok.inj (now'.symm.trans (within x hx y hy now))
  have low := young.of_get sound' now'
  rw [get_step_of_get sound on now] at next
  rw [get_step_of_get sound' on now']
  exact congrArg _ (threshold.transition_mono alive low le bound (Except.ok.inj next))

theorem LiveWithin.stepN (sound : Sound width height c b) (sound' : Sound width height c b')
    (threshold : c.Threshold) (young : b'.Everywhere (· ≤ Cell.alive)) (within : LiveWithin b b')
    (n : ℕ) : LiveWithin (Board.stepN n b) (Board.stepN n b') := by
  induction n generalizing b b' with
  | zero => exact within
  | succ n ih =>
    exact ih sound.step sound'.step (le_alive_step sound' threshold.ages_eq young)
      (within.step sound sound' threshold young)

/-- Under a rule that only looks for enough live neighbours: if of two boards of one size the second has
no decay and is alive wherever the first one is, then it is so after any number of steps, and at every
point each cell has at most as many live neighbours on the first as on the second. -/
theorem liveWithin_stepN (reach : b.Reachable) (reach' : b'.Reachable)
    (width_eq : b.width = b'.width) (height_eq : b.height = b'.height)
    (configuration_eq : b.configuration = b'.configuration) (threshold : b.configuration.Threshold)
    (young' : b'.Everywhere (· ≤ Cell.alive)) (within : LiveWithin b b') (n : ℕ) :
    LiveWithin (stepN n b) (stepN n b') ∧
      ∀ x < b.width, ∀ y < b.height, ∃ live live',
        (stepN n b).liveNeighbours x y = .ok live ∧ (stepN n b').liveNeighbours x y = .ok live' ∧
          live ≤ live' := by
  have sound := reach.sound
  have sound' : Sound b.width b.height b.configuration b' := by
    rw [width_eq, height_eq, configuration_eq]
    exact reach'.sound
  have later := within.stepN sound sound' threshold young' n
  have soundN := sound.stepN n
  have soundN' := sound'.stepN n
  exact ⟨later, fun x hx y hy => ⟨_, _, liveNeighbours_of_mem (soundN.on_iff.mpr ⟨hx, hy⟩),
    liveNeighbours_of_mem (soundN'.on_iff.mpr ⟨hx, hy⟩), later.countLive_le soundN soundN' x y⟩⟩

/-- Three live cells in a corner, alone and next to a fourth one: a cell that is dead on the first board
and alive on the second, at an edge of both, has three live neighbours on each. -/
theorem liveWithin_stepN_corner :
    ∃ b b' : Board, b.Reachable ∧ b'.Reachable ∧ b.configuration.Threshold ∧
      b'.Everywhere (· ≤ Cell.alive) ∧ LiveWithin b b' ∧
      b.get 1 1 = .ok Cell.dead ∧ b'.get 1 1 = .ok Cell.alive ∧
      LiveWithin (stepN 3 b) (stepN 3 b') ∧
      ∃ live live', (stepN 3 b).liveNeighbours 1 1 = .ok live ∧
        (stepN 3 b').liveNeighbours 1 1 = .ok live' ∧ live ≤ live' := by
  let c : Configuration :=
    ⟨1, 3, false, ⟨2, 8, by decide⟩, ⟨3, 65535, by decide⟩, .moore, by decide, by decide, by decide⟩
  let start := blank 4 2 c
  let b := start.run [.raise 0 0, .raise 1 0, .raise 0 1]
  let b' := start.run [.raise 0 0, .raise 1 0, .raise 0 1, .raise 1 1]
  have reach : b.Reachable := ⟨.usual, 4, 2, c, start, _, rfl, rfl⟩
  have reach' : b'.Reachable := ⟨.usual, 4, 2, c, start, _, rfl, rfl⟩
  have threshold : b.configuration.Threshold := ⟨rfl, by decide +kernel, by decide +kernel, by decide⟩
  have young' : b'.Everywhere (· ≤ Cell.alive) := by decide +kernel
  have within : LiveWithin b b' := by
    unfold LiveWithin
    decide +kernel
  obtain ⟨later, counts⟩ := liveWithin_stepN reach reach' (by decide +kernel) (by decide +kernel)
    (by decide +kernel) threshold young' within 3
  exact ⟨b, b', reach, reach', threshold, young', within, by decide +kernel, by decide +kernel, later,
    counts 1 (by decide +kernel) 1 (by decide +kernel)⟩

end Board

end LargerThanLife
