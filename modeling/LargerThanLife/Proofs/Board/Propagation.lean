import LargerThanLife.Proofs.Board.Plane

/-! How fast a difference spreads. One step carries a difference between two boards no farther than
the radius, whatever the boards hold and however near the edges are. So what a cell becomes in a number
of steps is decided by the cells within that number of radii of it. -/

namespace LargerThanLife

theorem Shape.distance_add_le (shape : Shape) (dx dy ex ey : ℤ) :
    shape.distance (dx + ex) (dy + ey) ≤ shape.distance dx dy + shape.distance ex ey := by
  have columns := Int.natAbs_add_le dx ex
  have rows := Int.natAbs_add_le dy ey
  cases shape with
  | moore =>
    exact max_le (columns.trans (Nat.add_le_add (le_max_left _ _) (le_max_left _ _)))
      (rows.trans (Nat.add_le_add (le_max_right _ _) (le_max_right _ _)))
  | vonNeumann => exact (Nat.add_le_add columns rows).trans_eq (Nat.add_add_add_comm _ _ _ _)

namespace Board

variable {width height : ℕ} {c : Configuration} {b b' : Board} {x y : ℤ}

/-- The two boards have the same states at the places within a distance of a place. -/
def AgreeNear (b b' : Board) (shape : Shape) (far : ℕ) (x y : ℤ) : Prop :=
  ∀ dx dy : ℤ, shape.distance dx dy ≤ far → b.plane (x + dx) (y + dy) = b'.plane (x + dx) (y + dy)

/-- One step takes one radius off the distance up to which boards agree. -/
theorem AgreeNear.step (sound : Sound width height c b) (sound' : Sound width height c b') {far : ℕ}
    (agree : AgreeNear b b' c.shape (far + c.radius) x y) :
    AgreeNear b.step b'.step c.shape far x y := by
  intro dx dy near
  have same_size : b'.Covers (x + dx) (y + dy) ↔ b.Covers (x + dx) (y + dy) := by
    simp only [Covers, sound.width_eq, sound.height_eq, sound'.width_eq, sound'.height_eq]
  by_cases covered : b.Covers (x + dx) (y + dy)
  · rw [plane_step sound covered, plane_step sound' (same_size.mpr covered)]
    refine Configuration.evolve_congr fun ex ey beside => ?_
    rw [add_assoc, add_assoc]
    apply agree
    calc c.shape.distance (dx + ex) (dy + ey)
        ≤ c.shape.distance dx dy + c.shape.distance ex ey := c.shape.distance_add_le dx dy ex ey
      _ ≤ far + c.radius := Nat.add_le_add near beside
  · rw [plane_of_not_covers (b := b.step) covered,
      plane_of_not_covers (b := b'.step) (mt same_size.mp covered)]

theorem AgreeNear.stepN (sound : Sound width height c b) (sound' : Sound width height c b')
    {far : ℕ} (n : ℕ) (agree : AgreeNear b b' c.shape (far + n * c.radius) x y) :
    AgreeNear (Board.stepN n b) (Board.stepN n b') c.shape far x y := by
  induction n generalizing b b' with
  | zero =>
    rw [Nat.zero_mul, Nat.add_zero] at agree
    exact agree
  | succ n ih =>
    rw [Nat.succ_mul, ← Nat.add_assoc] at agree
    exact ih sound.step sound'.step (agree.step sound sound')

/-- Boards of one size that have the same cells near a cell agree near its place; off the boards there
is nothing to compare. -/
theorem agreeNear_of_get (width_eq : b.width = b'.width) (height_eq : b.height = b'.height)
    {shape : Shape} {far m n : ℕ}
    (same : ∀ m' < b.width, ∀ n' < b.height, shape.separation (m, n) (m', n') ≤ far →
      b.get m' n' = b'.get m' n') :
    AgreeNear b b' shape far m n := by
  intro dx dy near
  by_cases covered : b.Covers (m + dx) (n + dy)
  · obtain ⟨m', n', hx, hy, on⟩ := exists_cell_of_covers covered
    have on' : m' < b'.width ∧ n' < b'.height := by rwa [← width_eq, ← height_eq]
    have close : shape.separation (m, n) (m', n') ≤ far := by
      rw [Shape.separation_eq_distance]
      simpa only [← hx, ← hy, add_sub_cancel_left] using near
    have equal := same m' on.1 n' on.2 close
    rw [get_eq_plane on, get_eq_plane on'] at equal
    rw [hx, hy]
    exact Except.ok.inj equal
  · have off : ¬b'.Covers (m + dx) (n + dy) := by rwa [Covers, ← width_eq, ← height_eq]
    rw [plane_of_not_covers covered, plane_of_not_covers off]

/-- If two boards of one size and ruleset have the same cells within `n` radii of a cell, that cell is
in the same state on both after `n` steps, whatever the boards hold elsewhere. -/
theorem get_stepN_eq_of_agree (reach : b.Reachable) (reach' : b'.Reachable)
    (width_eq : b.width = b'.width) (height_eq : b.height = b'.height)
    (configuration_eq : b.configuration = b'.configuration) (n : ℕ) {m k : ℕ}
    (on : m < b.width ∧ k < b.height)
    (same : ∀ m' < b.width, ∀ k' < b.height,
      b.configuration.shape.separation (m, k) (m', k') ≤ n * b.configuration.radius →
        b.get m' k' = b'.get m' k') :
    ∃ state, (stepN n b).get m k = .ok state ∧ (stepN n b').get m k = .ok state := by
  have sound := reach.sound
  have sound' : Sound b.width b.height b.configuration b' := by
    rw [width_eq, height_eq, configuration_eq]
    exact reach'.sound
  have agree := agreeNear_of_get width_eq height_eq same
  rw [← Nat.zero_add (n * _)] at agree
  have here := agree.stepN sound sound' n 0 0
    (by simp)
  simp only [add_zero] at here
  refine ⟨_, get_eq_plane ?_, ?_⟩
  · rw [(sound.stepN n).width_eq, (sound.stepN n).height_eq]
    exact on
  · rw [here]
    apply get_eq_plane
    rw [(sound'.stepN n).width_eq, (sound'.stepN n).height_eq]
    exact on

/-- Two boards that differ in their last two columns only, by live and by decaying cells, have the same
state in the lower left corner after two steps. -/
theorem get_stepN_eq_of_agree_far :
    ∃ b b' : Board, b.Reachable ∧ b'.Reachable ∧ b.get 3 0 ≠ b'.get 3 0 ∧ b.get 4 1 ≠ b'.get 4 1 ∧
      ∃ state, (stepN 2 b).get 0 1 = .ok state ∧ (stepN 2 b').get 0 1 = .ok state := by
  let start := blank 5 2 .decaying
  let b := start.run [.raise 0 0, .raise 1 1, .raise 2 0, .set 4 1 3]
  let b' := start.run [.raise 0 0, .raise 1 1, .raise 2 0, .raise 3 0, .raise 4 1]
  have reach : b.Reachable := ⟨.usual, 5, 2, .decaying, start, _, rfl, rfl⟩
  have reach' : b'.Reachable := ⟨.usual, 5, 2, .decaying, start, _, rfl, rfl⟩
  exact ⟨b, b', reach, reach', by decide +kernel, by decide +kernel,
    get_stepN_eq_of_agree reach reach' (by decide +kernel) (by decide +kernel) (by decide +kernel) 2
      (by decide) (by decide +kernel)⟩

end Board

end LargerThanLife
