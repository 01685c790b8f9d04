import LargerThanLife.Proofs.Board.Census
import Mathlib.Order.Interval.Finset.Nat

/-! Counts at the edges of a full board. When every cell is alive, the count of a cell is the number of
its neighbours that lie on the board. In the square these are all cells of a rectangle but one: in each
direction the radius reaches as far as it says or as the edge allows. In either shape some neighbour is
as far away as the radius in each of the four directions, so a cell has all of its neighbours if and
only if no edge is nearer than that. -/

namespace LargerThanLife

/-! ### Neighbours in one direction -/

/-- The places within a radius of the place `x`, out of the first `length` ones. -/
def stretch (length radius x : ℕ) : Finset ℕ :=
  (Finset.range length).filter fun i => Nat.dist x i ≤ radius

@[simp] theorem mem_stretch {length radius x i : ℕ} :
    i ∈ stretch length radius x ↔ i < length ∧ Nat.dist x i ≤ radius := by
  rw [stretch, Finset.mem_filter, Finset.mem_range]

theorem card_stretch {length x : ℕ} (radius : ℕ) (inside : x < length) :
    (stretch length radius x).card = min x radius + min (length - 1 - x) radius + 1 := by
  have interval : stretch length radius x =
      Finset.Icc (x - radius) (min (x + radius) (length - 1)) := by
    ext i
    rw [mem_stretch, Finset.mem_Icc, Nat.dist]
    omega
  rw [interval, Nat.card_Icc]
  omega

/-- The neighbours farthest away along a row or a column. -/
theorem Shape.mem_offsets_of_natAbs_eq {radius : ℕ} {d : ℤ} (shape : Shape) (positive : 0 < radius)
    (far : d.natAbs = radius) :
    (⟨d, 0⟩ : Offset) ∈ shape.offsets radius ∧ (⟨0, d⟩ : Offset) ∈ shape.offsets radius := by
  have other : d ≠ 0 := by omega
  constructor
  · refine mem_offsets.mpr ⟨.inl other, contains_iff.mpr ?_⟩
    cases shape <;> simp [distance, far]
  · refine mem_offsets.mpr ⟨.inr other, contains_iff.mpr ?_⟩
    cases shape <;> simp [distance, far]

namespace Board

variable {width height x y : ℕ} {c : Configuration} {b : Board}

/-! ### Full boards -/

theorem get_of_full (full : b.Everywhere (· = Cell.alive)) (sound : Sound width height c b)
    (on : x < width ∧ y < height) : b.get x y = .ok Cell.alive := by
  obtain ⟨state, now⟩ := exists_get_eq_ok sound on
  obtain rfl := full.of_get sound now
  exact now

theorem isAlive_iff_covers (full : b.Everywhere (· = Cell.alive)) (sound : Sound width height c b)
    {x y : ℤ} : b.isAlive x y ↔ b.Covers x y := by
  rw [isAlive_iff]
  constructor
  · rintro ⟨p, ⟨rfl, rfl⟩, on, -⟩
    omega
  · intro covered
    obtain ⟨m, n, column, row, on⟩ := exists_cell_of_covers covered
    exact ⟨(m, n), ⟨column, row⟩, on, get_of_full full sound (sound.on_iff.mp on)⟩

/-- In the square the neighbours on the board are the rest of a rectangle. -/
theorem liveAround_of_full (full : b.Everywhere (· = Cell.alive)) (sound : Sound width height c b)
    (square : c.shape = .moore) : b.liveAround x y =
      (stretch width c.radius x ×ˢ stretch height c.radius y).erase (x, y) := by
  ext p
  simp only [liveAround, Finset.mem_filter, Finset.mem_product, Finset.mem_range, Finset.mem_erase,
    mem_stretch, sound.width_eq, sound.height_eq, sound.configuration_eq, square, Shape.separation,
    max_le_iff]
  constructor
  · rintro ⟨on, other, -, columns, rows⟩
    exact ⟨other, ⟨on.1, columns⟩, on.2, rows⟩
  · rintro ⟨other, ⟨column, columns⟩, row, rows⟩
    exact ⟨⟨column, row⟩, other, get_of_full full sound ⟨column, row⟩, columns, rows⟩

theorem countLive_of_full (full : b.Everywhere (· = Cell.alive)) (sound : Sound width height c b)
    (square : c.shape = .moore) (on : x < width ∧ y < height) : b.countLive x y =
      (min x c.radius + min (width - 1 - x) c.radius + 1) *
        (min y c.radius + min (height - 1 - y) c.radius + 1) - 1 := by
  have origin : (x, y) ∈ stretch width c.radius x ×ˢ stretch height c.radius y := by
    rw [Finset.mem_product, mem_stretch, mem_stretch, Nat.dist_self, Nat.dist_self]
    exact ⟨⟨on.1, Nat.zero_le _⟩, on.2, Nat.zero_le _⟩
  rw [countLive_eq_card sound.fits, liveAround_of_full full sound square,
    Finset.card_erase_of_mem origin, Finset.card_product, card_stretch _ on.1, card_stretch _ on.2]

/-- The count is full where no edge is within the radius. -/
theorem countLive_eq_neighbourCount_iff (full : b.Everywhere (· = Cell.alive))
    (sound : Sound width height c b) : b.countLive x y = c.neighbourCount ↔
      c.radius ≤ x ∧ x + c.radius < width ∧ c.radius ≤ y ∧ y + c.radius < height := by
  rw [Configuration.neighbourCount, ← Shape.length_offsets, ← Configuration.offsets, countLive,
    sound.offsets_eq, List.countP_eq_length]
  simp only [isAlive_iff_covers full sound, Covers, sound.width_eq, sound.height_eq]
  constructor
  · intro covered
    -- the farthest neighbour in each direction keeps the edge there at a distance
    have positive := c.radius_pos
    have ends := c.shape.mem_offsets_of_natAbs_eq positive (Int.natAbs_natCast c.radius)
    have ends' := c.shape.mem_offsets_of_natAbs_eq positive (d := -c.radius) (by omega)
    have right := covered _ ends.1
    have down := covered _ ends.2
    have left := covered _ ends'.1
    have up := covered _ ends'.2
    dsimp only at right down left up
    omega
  · intro inner o listed
    have near := Configuration.distance_le_of_mem_offsets listed
    have reach := c.shape.natAbs_le_distance o.dx o.dy
    omega

/-- On a full board that some course of events led to, the neighbours of a cell in the square are counted
as those of a rectangle that the edges clip. In either shape the count is that of all neighbours if and
only if no edge is within the radius of the cell, and less at any other cell. -/
theorem full_counts (reach : b.Reachable) (full : b.Everywhere (· = Cell.alive))
    (on : x < b.width ∧ y < b.height) :
    ∃ live, b.liveNeighbours x y = .ok live ∧
      (b.configuration.shape = .moore → live =
        (min x b.configuration.radius + min (b.width - 1 - x) b.configuration.radius + 1) *
          (min y b.configuration.radius + min (b.height - 1 - y) b.configuration.radius + 1) - 1) ∧
      (live = b.configuration.neighbourCount ↔
        b.configuration.radius ≤ x ∧ x + b.configuration.radius < b.width ∧
          b.configuration.radius ≤ y ∧ y + b.configuration.radius < b.height) ∧
      (¬(b.configuration.radius ≤ x ∧ x + b.configuration.radius < b.width ∧
          b.configuration.radius ≤ y ∧ y + b.configuration.radius < b.height) →
        live < b.configuration.neighbourCount) := by
  have sound := reach.sound
  have all := countLive_eq_neighbourCount_iff (x := x) (y := y) full sound
  refine ⟨b.countLive x y, liveNeighbours_of_mem on,
    fun square => countLive_of_full full sound square on, all, fun edge => ?_⟩
  exact lt_of_le_of_ne (countLive_le_neighbourCount sound.fits x y) (mt all.mp edge)

/-- A cell in the middle column of a board that is lower than its neighbourhoods, and the one cell of a
small board that has all of its neighbours in the diamond. -/
theorem full_counts_low :
    ∃ b b' : Board, b.Reachable ∧ b'.Reachable ∧ b.Everywhere (· = Cell.alive) ∧
      b'.Everywhere (· = Cell.alive) ∧ b.configuration.radius = 2 ∧ b.height = 2 ∧
      b.liveNeighbours 2 1 = .ok 9 ∧ 9 < b.configuration.neighbourCount ∧
      b'.configuration.shape = .vonNeumann ∧
      b'.liveNeighbours 1 1 = .ok b'.configuration.neighbourCount := by
  let c : Configuration :=
    ⟨2, 0, false, ⟨2, 3, by decide⟩, ⟨0, 3, by decide⟩, .moore, by decide, by decide, by decide⟩
  let c' : Configuration :=
    ⟨1, 0, false, ⟨2, 3, by decide⟩, ⟨0, 3, by decide⟩, .vonNeumann, by decide, by decide, by decide⟩
  -- cells are born of nothing, so that a dead board is full after a step
  let b := (blank 5 2 c).run [.step]
  let b' := (blank 3 3 c').run [.step]
  have reach : b.Reachable := ⟨.usual, 5, 2, c, _, _, rfl, rfl⟩
  have reach' : b'.Reachable := ⟨.usual, 3, 3, c', _, _, rfl, rfl⟩
  have full : b.Everywhere (· = Cell.alive) := by decide +kernel
  have full' : b'.Everywhere (· = Cell.alive) := by decide +kernel
  obtain ⟨live, count, rectangle, -, less⟩ := full_counts (x := 2) (y := 1) reach full (by decide)
  obtain ⟨live', count', -, all, -⟩ := full_counts (x := 1) (y := 1) reach' full' (by decide)
  have nine : live = 9 := rectangle rfl
  rw [nine] at count less
  rw [all.mpr (by decide)] at count'
  exact ⟨b, b', reach, reach', full, full', rfl, rfl, count, less (by decide), rfl, count'⟩

end Board

end LargerThanLife
