import LargerThanLife.Proofs.Board.Plane

/-! Patterns far from the edges. When a dead cell without live neighbours stays dead, whatever is alive
or decaying grows by at most a radius in a step. A pattern that is far enough from every edge does not
feel them, so it develops in the same way wherever it stands on a board, and on a board of any size. -/

namespace LargerThanLife

namespace Configuration

variable {c : Configuration} {f : ℤ → ℤ → Cell} {x y : ℤ}

/-- A place that is dead as far as the radius reaches stays dead, if no cell is born of nothing. -/
theorem evolve_eq_dead (quiet : 0 < c.birth.min)
    (dead : ∀ dx dy : ℤ, c.shape.distance dx dy ≤ c.radius → f (x + dx) (y + dy) = Cell.dead) :
    c.evolve f x y = Cell.dead := by
  have beside : c.liveBeside f x y = 0 := by
    refine List.countP_eq_zero.mpr fun o listed => ?_
    rw [dead o.dx o.dy (distance_le_of_mem_offsets listed)]
    decide
  have here : f x y = Cell.dead := by
    simpa only [add_zero] using dead 0 0 (by simp)
  rw [evolve, beside, here, transition_dead_zero, if_neg (UInt16.pos_iff_ne_zero.mp quiet)]

end Configuration

namespace Board

/-- Every live or decaying cell has `margin` cells between it and each edge. -/
def Inset (b : Board) (margin : ℕ) : Prop :=
  ∀ m < b.width, ∀ n < b.height, b.get m n ≠ .ok Cell.dead →
    margin ≤ m ∧ m + margin < b.width ∧ margin ≤ n ∧ n + margin < b.height

/-- The live and decaying cells of `b'` are those of `b`, moved by `(dx, dy)`, in the same states. -/
structure Moved (dx dy : ℤ) (b b' : Board) : Prop where
  there : ∀ m < b.width, ∀ n < b.height, b.get m n ≠ .ok Cell.dead →
    ∃ m' < b'.width, ∃ n' < b'.height,
      (m' : ℤ) = m + dx ∧ (n' : ℤ) = n + dy ∧ b'.get m' n' = b.get m n
  back : ∀ m' < b'.width, ∀ n' < b'.height, b'.get m' n' ≠ .ok Cell.dead →
    ∃ m < b.width, ∃ n < b.height,
      (m' : ℤ) = m + dx ∧ (n' : ℤ) = n + dy ∧ b.get m n = b'.get m' n'

/-- When `b` is laid over `b'` and moved by `(dx, dy)`, cells that lie on each other are in the same
state, and the cells of one board beside the other are dead. -/
structure Coincide (dx dy : ℤ) (b b' : Board) : Prop where
  same : ∀ m < b.width, ∀ n < b.height, ∀ m' < b'.width, ∀ n' < b'.height,
    (m' : ℤ) = m + dx → (n' : ℤ) = n + dy →
      ∃ state, b.get m n = .ok state ∧ b'.get m' n' = .ok state
  beside : ∀ m < b.width, ∀ n < b.height,
    (∀ m' < b'.width, ∀ n' < b'.height, ¬((m' : ℤ) = m + dx ∧ (n' : ℤ) = n + dy)) →
      b.get m n = .ok Cell.dead
  beside' : ∀ m' < b'.width, ∀ n' < b'.height,
    (∀ m < b.width, ∀ n < b.height, ¬((m' : ℤ) = m + dx ∧ (n' : ℤ) = n + dy)) →
      b'.get m' n' = .ok Cell.dead

variable {width height width' height' : ℕ} {c : Configuration} {b b' : Board} {margin : ℕ}
  {dx dy x y : ℤ}

/-! ### On the plane -/

theorem exists_cell_of_plane_ne (inhabited : b.plane x y ≠ Cell.dead) :
    ∃ m n : ℕ, x = m ∧ y = n ∧ (m < b.width ∧ n < b.height) ∧ b.get m n ≠ .ok Cell.dead := by
  have covered : b.Covers x y := by
    by_contra off
    exact inhabited (plane_of_not_covers off)
  obtain ⟨m, n, rfl, rfl, on⟩ := exists_cell_of_covers covered
  refine ⟨m, n, rfl, rfl, on, fun dead => ?_⟩
  rw [get_eq_plane on] at dead
  exact inhabited (Except.ok.inj dead)

theorem Inset.of_plane_ne (inset : b.Inset margin) (inhabited : b.plane x y ≠ Cell.dead) :
    margin ≤ x ∧ x + margin < b.width ∧ margin ≤ y ∧ y + margin < b.height := by
  obtain ⟨m, n, rfl, rfl, on, alive⟩ := exists_cell_of_plane_ne inhabited
  have far := inset m on.1 n on.2 alive
  omega

theorem Moved.plane_eq (moved : Moved dx dy b b') (x y : ℤ) :
    b'.plane (x + dx) (y + dy) = b.plane x y := by
  by_cases dead : b.plane x y = Cell.dead
  · rw [dead]
    by_contra inhabited
    obtain ⟨m', n', hx, hy, on', alive⟩ := exists_cell_of_plane_ne inhabited
    obtain ⟨m, hm, n, hn, column, row, same⟩ := moved.back m' on'.1 n' on'.2 alive
    obtain rfl : x = m := by omega
    obtain rfl : y = n := by omega
    rw [← same, get_eq_plane ⟨hm, hn⟩, dead] at alive
    exact alive rfl
  · obtain ⟨m, n, rfl, rfl, on, alive⟩ := exists_cell_of_plane_ne dead
    obtain ⟨m', hm, n', hn, column, row, same⟩ := moved.there m on.1 n on.2 alive
    rw [get_eq_plane on, get_eq_plane ⟨hm, hn⟩] at same
    rw [← column, ← row]
    exact Except.ok.inj same

theorem coincide_of_plane_eq (same : ∀ x y : ℤ, b'.plane (x + dx) (y + dy) = b.plane x y) :
    Coincide dx dy b b' where
  same := by
    intro m hm n hn m' hm' n' hn' column row
    refine ⟨_, get_eq_plane ⟨hm, hn⟩, ?_⟩
    rw [get_eq_plane ⟨hm', hn'⟩, column, row, same]
  beside := by
    intro m hm n hn alone
    rw [get_eq_plane ⟨hm, hn⟩, ← same, plane_of_not_covers]
    intro covered
    obtain ⟨m', n', column, row, on'⟩ := exists_cell_of_covers covered
    exact alone m' on'.1 n' on'.2 ⟨column.symm, row.symm⟩
  beside' := by
    intro m' hm' n' hn' alone
    have here := same (m' - dx) (n' - dy)
    rw [sub_add_cancel, sub_add_cancel] at here
    rw [get_eq_plane ⟨hm', hn'⟩, here, plane_of_not_covers]
    intro covered
    obtain ⟨m, n, column, row, on⟩ := exists_cell_of_covers covered
    exact alone m on.1 n on.2 (by omega)

/-! ### Steps -/

/-- What is within the radius of a place that is too near to an edge is dead. -/
theorem Inset.evolve_eq_dead (inset : b.Inset (margin + c.radius)) (quiet : 0 < c.birth.min)
    (close : ¬(margin ≤ x ∧ x + margin < b.width ∧ margin ≤ y ∧ y + margin < b.height)) :
    c.evolve b.plane x y = Cell.dead := by
  refine Configuration.evolve_eq_dead quiet fun ex ey near => ?_
  by_contra inhabited
  have far := inset.of_plane_ne inhabited
  have reach := c.shape.natAbs_le_distance ex ey
  exact close (by omega)

/-- On a board whose live and decaying cells are farther than the radius from the edges, a step
follows the law of the plane off the board too. -/
theorem plane_step_of_inset (sound : Sound width height c b) (quiet : 0 < c.birth.min)
    (inset : b.Inset (margin + c.radius)) (x y : ℤ) :
    b.step.plane x y = c.evolve b.plane x y := by
  by_cases covered : b.Covers x y
  · exact plane_step sound covered
  · rw [plane_of_not_covers (b := b.step) covered]
    exact (inset.evolve_eq_dead quiet fun inside => covered (by omega)).symm

theorem Inset.step (sound : Sound width height c b) (quiet : 0 < c.birth.min)
    (inset : b.Inset (margin + c.radius)) : b.step.Inset margin := by
  intro m hm n hn alive
  rw [get_eq_plane (b := b.step) ⟨hm, hn⟩, plane_step_of_inset sound quiet inset] at alive
  have size : b.step.width = b.width ∧ b.step.height = b.height := ⟨rfl, rfl⟩
  by_contra close
  exact alive (congrArg _ (inset.evolve_eq_dead quiet fun inside => close (by omega)))

theorem plane_stepN_eq (quiet : 0 < c.birth.min) (n : ℕ) (sound : Sound width height c b)
    (sound' : Sound width' height' c b') (inset : b.Inset (n * c.radius))
    (inset' : b'.Inset (n * c.radius))
    (same : ∀ x y : ℤ, b'.plane (x + dx) (y + dy) = b.plane x y) (x y : ℤ) :
    (stepN n b').plane (x + dx) (y + dy) = (stepN n b).plane x y := by
  induction n generalizing b b' with
  | zero => exact same x y
  | succ n ih =>
    rw [Nat.succ_mul] at inset inset'
    refine ih sound.step sound'.step (inset.step sound quiet) (inset'.step sound' quiet) ?_
    intro x y
    rw [plane_step_of_inset sound quiet inset, plane_step_of_inset sound' quiet inset']
    refine Configuration.evolve_congr fun ex ey _ => ?_
    rw [← same, add_right_comm x, add_right_comm y]

/-- A pattern that stands on two boards, of whatever sizes, with at least `n` radii between it and each
edge, is the same pattern on both after `n` steps. -/
theorem coincide_stepN (reach : b.Reachable) (reach' : b'.Reachable)
    (configuration_eq : b.configuration = b'.configuration)
    (quiet : 0 < b.configuration.birth.min) (moved : Moved dx dy b b') (n : ℕ)
    (inset : b.Inset (n * b.configuration.radius))
    (inset' : b'.Inset (n * b.configuration.radius)) :
    Coincide dx dy (stepN n b) (stepN n b') := by
  have sound := reach.sound
  have sound' : Sound b'.width b'.height b.configuration b' := by
    rw [configuration_eq]
    exact reach'.sound
  exact coincide_of_plane_eq
    (plane_stepN_eq quiet n sound sound' inset inset' moved.plane_eq)

/-- Three live cells and a decaying one, on boards of eight by six and of seven by seven cells. -/
theorem coincide_stepN_down_left :
    ∃ b b' : Board, b.Reachable ∧ b'.Reachable ∧ b.get 5 3 = .ok 3 ∧ Moved (-1) 1 b b' ∧
      b.Inset 2 ∧ b'.Inset 2 ∧ Coincide (-1) 1 (stepN 2 b) (stepN 2 b') := by
  let start := blank 8 6 .decaying
  let start' := blank 7 7 .decaying
  let b := start.run [.raise 3 2, .raise 4 2, .raise 3 3, .set 5 3 3]
  let b' := start'.run [.raise 2 3, .raise 3 3, .raise 2 4, .set 4 4 3]
  have reach : b.Reachable := ⟨.usual, 8, 6, .decaying, start, _, rfl, rfl⟩
  have reach' : b'.Reachable := ⟨.usual, 7, 7, .decaying, start', _, rfl, rfl⟩
  have moved : Moved (-1) 1 b b' := ⟨by decide +kernel, by decide +kernel⟩
  have inset : b.Inset 2 := by unfold Inset; decide +kernel
  have inset' : b'.Inset 2 := by unfold Inset; decide +kernel
  exact ⟨b, b', reach, reach', by decide +kernel, moved, inset, inset',
    coincide_stepN reach reach' (by decide +kernel) (by decide +kernel) moved 2 inset inset'⟩

end Board

end LargerThanLife
