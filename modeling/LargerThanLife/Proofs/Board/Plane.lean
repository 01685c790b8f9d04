import LargerThanLife.Proofs.Board.Generation

/-! Boards on a plane. A board lies on a plane with a place for every pair of integers, and the places
off the board are dead. On the plane a generation is a law without edges: a place gets the state that
the rule has for its state and for the number of live places around it. A step of a board follows the
law on the board and leaves the rest of the plane dead. -/

namespace LargerThanLife

/-! ### The law -/

namespace Configuration

variable {c : Configuration} {f g : ℤ → ℤ → Cell} {x y x' y' : ℤ}

/-- The number of live places around a place, when every place has the state that `f` gives. -/
def liveBeside (c : Configuration) (f : ℤ → ℤ → Cell) (x y : ℤ) : ℕ :=
  c.offsets.countP fun o => f (x + o.dx) (y + o.dy) == Cell.alive

def evolve (c : Configuration) (f : ℤ → ℤ → Cell) (x y : ℤ) : Cell :=
  c.transition (f x y) (c.liveBeside f x y)

theorem distance_le_of_mem_offsets {o : Offset} (listed : o ∈ c.offsets) :
    c.shape.distance o.dx o.dy ≤ c.radius :=
  Shape.contains_iff.mp (Shape.mem_offsets.mp listed).2

/-- The next state of a place is decided by the states within the radius of it. -/
theorem evolve_congr
    (same : ∀ dx dy : ℤ, c.shape.distance dx dy ≤ c.radius →
      f (x + dx) (y + dy) = g (x' + dx) (y' + dy)) :
    c.evolve f x y = c.evolve g x' y' := by
  have here : f x y = g x' y' := by
    have at_origin := same 0 0 (by simp)
    simpa only [add_zero] using at_origin
  have around : c.liveBeside f x y = c.liveBeside g x' y' := by
    refine List.countP_congr fun o listed => ?_
    rw [same o.dx o.dy (distance_le_of_mem_offsets listed)]
  rw [evolve, evolve, here, around]

end Configuration

/-! ### Boards -/

namespace Board

variable {width height : ℕ} {c : Configuration} {b : Board} {x y : ℤ}

/-- The board covers the place. -/
abbrev Covers (b : Board) (x y : ℤ) : Prop := 0 ≤ x ∧ x < b.width ∧ 0 ≤ y ∧ y < b.height

/-- The state of a place of the plane that the board lies on. -/
def plane (b : Board) (x y : ℤ) : Cell :=
  if b.Covers x y then b.stateAt (y.toNat * b.width + x.toNat) else Cell.dead

theorem plane_of_not_covers (off : ¬b.Covers x y) : b.plane x y = Cell.dead := if_neg off

theorem get_eq_plane {m n : ℕ} (on : m < b.width ∧ n < b.height) :
    b.get m n = .ok (b.plane m n) := by
  have covered : b.Covers m n := by omega
  simp [on, plane, covered]

theorem plane_le_maxState (sound : Sound width height c b) (x y : ℤ) :
    b.plane x y ≤ c.maxState := by
  unfold plane stateAt
  split
  · rw [Array.getD_eq_getD_getElem?]
    cases found : b.cells[y.toNat * b.width + x.toNat]? with
    | none => exact Nat.zero_le _
    | some state => exact sound.cells_le state (Array.mem_of_getElem? found)
  · exact Nat.zero_le _

theorem exists_cell_of_covers (covered : b.Covers x y) :
    ∃ m n : ℕ, x = m ∧ y = n ∧ m < b.width ∧ n < b.height :=
  ⟨x.toNat, y.toNat, by omega⟩

theorem isAlive_eq_plane (b : Board) (x y : ℤ) :
    b.isAlive x y = (b.plane x y == Cell.alive) := by
  rw [Bool.eq_iff_iff, beq_iff_eq, plane]
  simp only [isAlive, Bool.and_eq_true, decide_eq_true_eq, beq_iff_eq, and_assoc]
  by_cases covered : b.Covers x y
  · rw [if_pos covered]
    obtain ⟨left, right, top, bottom⟩ := covered
    exact ⟨fun h => h.2.2.2.2, fun alive => ⟨left, right, top, bottom, alive⟩⟩
  · rw [if_neg covered]
    exact ⟨fun h => absurd ⟨h.1, h.2.1, h.2.2.1, h.2.2.2.1⟩ covered,
      fun alive => absurd alive Nat.zero_ne_one⟩

theorem countLive_eq_liveBeside (sound : Sound width height c b) (m n : ℕ) :
    b.countLive m n = c.liveBeside b.plane m n := by
  rw [countLive, Configuration.liveBeside, sound.offsets_eq]
  exact List.countP_congr fun o _ => by rw [isAlive_eq_plane]

theorem liveNeighbours_eq_liveBeside (sound : Sound width height c b) {m n : ℕ}
    (on : m < b.width ∧ n < b.height) :
    b.liveNeighbours m n = .ok (c.liveBeside b.plane m n) := by
  simp [on, countLive_eq_liveBeside sound]

/-- A step follows the law of the plane on the board. -/
theorem plane_step (sound : Sound width height c b) (covered : b.Covers x y) :
    b.step.plane x y = c.evolve b.plane x y := by
  obtain rfl := sound.width_eq
  obtain rfl := sound.height_eq
  obtain rfl := sound.configuration_eq
  obtain ⟨m, n, rfl, rfl, on⟩ := exists_cell_of_covers covered
  have now : b.stateAt (n * b.width + m) = b.plane m n :=
    Except.ok.inj ((get_of_mem on).symm.trans (get_eq_plane on))
  have next : b.step.get m n = .ok (b.step.plane m n) := get_eq_plane (b := b.step) on
  rw [get_step sound on, nextState, countLive_eq_liveBeside sound, now] at next
  exact (Except.ok.inj next).symm

end Board

end LargerThanLife
