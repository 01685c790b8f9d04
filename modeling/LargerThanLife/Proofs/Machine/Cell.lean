import LargerThanLife.Proofs.Board.Invariant
import LargerThanLife.Proofs.Board.Neighbours
import LargerThanLife.Proofs.Machine.Board

/-! What a machine board does with a single cell, if the board that it stands for is well formed. No
place of a cell overflows, since it comes before the end of the buffers; a neighbour is taken exactly
if it is on the grid over the integers, however far the coordinates are from it; the count of live
neighbours is at most the number of neighbours; and a decaying cell is one stage further only as long
as the last stage has not been reached. -/

namespace LargerThanLife

namespace Machine.Board

open LargerThanLife.Board (index_lt index_of_mem index_of_not_mem isAlive_iff isAlive_of_mem
  countLive_le_neighbourCount)

/-- The word is the index `n`, which is one of a cell. -/
def Locates (m : Board) (i : UInt64) (n : ℕ) : Prop := i.toNat = n ∧ i.toNat < m.cells.size

/-- The machine board stands for the board. -/
def Represents (m : Board) (b : LargerThanLife.Board) : Prop := m.value = b

variable {m : Board} {x y i : UInt64} {n : ℕ} {state : UInt8}

/-! ### Places -/

theorem size_cells_eq (sound : m.value.WellFormed) :
    m.cells.size = m.width.toNat * m.height.toNat :=
  Array.size_map.symm.trans sound.size_cells

theorem width_pos (sound : m.value.WellFormed) : 0 < m.width.toNat :=
  Nat.pos_of_mul_pos_right sound.area_pos

theorem width_ne_zero (sound : m.value.WellFormed) : m.width ≠ 0 := by
  intro zero
  have positive := width_pos sound
  rw [zero] at positive
  exact Nat.lt_irrefl 0 positive

theorem area_lt_size (sound : m.value.WellFormed) :
    m.width.toNat * m.height.toNat < UInt64.size :=
  Nat.lt_trans sound.area_lt (by decide)

theorem place_eq_ok (sound : m.value.WellFormed) (inside : x < m.width ∧ y < m.height) :
    ∃ i, m.place x y = .ok i ∧ m.Locates i (y.toNat * m.width.toNat + x.toNat) := by
  have before : y.toNat * m.width.toNat + x.toNat < m.width.toNat * m.height.toNat :=
    index_lt (b := m.value) inside
  have fits : y.toNat * m.width.toNat + x.toNat < UInt64.size :=
    before.trans (area_lt_size sound)
  obtain ⟨start, multiplied, start_eq⟩ :
      ∃ i, full.mul y m.width = .ok i ∧ i.toNat = y.toNat * m.width.toNat :=
    Word.fit_eq_ok (Nat.lt_of_le_of_lt (Nat.le_add_right _ _) fits)
  rw [← start_eq] at before fits ⊢
  obtain ⟨i, added, i_eq⟩ : ∃ i, full.add start x = .ok i ∧ i.toNat = start.toNat + x.toNat :=
    Word.fit_eq_ok fits
  refine ⟨i, ?_, i_eq, ?_⟩
  · simp [place, multiplied, added]
  · rw [i_eq, size_cells_eq sound]
    exact before

theorem index_matches (sound : m.value.WellFormed) (x y : UInt64) :
    Matches Refused m.Locates (m.index x y) (m.value.index x.toNat y.toNat) := by
  by_cases outside : m.width ≤ x ∨ m.height ≤ y
  · have away : ¬(x < m.width ∧ y < m.height) := by
      rwa [not_and_or, UInt64.not_lt, UInt64.not_lt]
    rw [index, if_pos outside, index_of_not_mem (b := m.value) (x := x.toNat) (y := y.toNat) away]
    exact .error rfl
  · have inside : x < m.width ∧ y < m.height := by
      rwa [not_or, UInt64.not_le, UInt64.not_le] at outside
    obtain ⟨i, placed, located⟩ := place_eq_ok sound inside
    rw [index, if_neg outside, placed,
      index_of_mem (b := m.value) (x := x.toNat) (y := y.toNat) inside]
    exact .ok located

/-! ### States -/

theorem stateAt_value (inside : i.toNat < m.cells.size) :
    m.value.stateAt i.toNat = m.cells[i.toNat].toNat := by
  simp [LargerThanLife.Board.stateAt, value, inside]

theorem beq_one_eq (state : UInt8) : (state == 1) = (state.toNat == Cell.alive) := by
  rw [Bool.eq_iff_iff, beq_iff_eq, beq_iff_eq, ← UInt8.toNat_inj]
  rfl

theorem Locates.read_eq_ok (located : m.Locates i n) :
    ∃ state, read m.cells i = .ok state ∧ state.toNat = m.value.stateAt n := by
  obtain ⟨rfl, inside⟩ := located
  exact ⟨_, Machine.read_eq_ok inside, (stateAt_value inside).symm⟩

theorem represents_changeAt {f : Cell → Cell} (inside : i.toNat < m.cells.size)
    (turned : f (m.value.stateAt i.toNat) = state.toNat) :
    Represents { m with cells := m.cells.set i.toNat state inside } (m.value.changeAt i.toNat f) := by
  rw [stateAt_value inside] at turned
  have same : (m.cells.set i.toNat state inside).map UInt8.toNat =
      (m.cells.map UInt8.toNat).modify i.toNat f := by
    rw [Array.map_set]
    apply Array.ext_getElem?
    intro j
    rw [Array.getElem?_modify, Array.getElem?_set, Array.getElem?_map]
    by_cases here : i.toNat = j
    · subst here
      simp [turned, inside]
    · simp [here]
  simp only [Represents, value, LargerThanLife.Board.changeAt, same]

theorem Locates.put_eq_ok (located : m.Locates i n) (state : UInt8) {f : Cell → Cell}
    (turned : f (m.value.stateAt n) = state.toNat) :
    ∃ next, m.put i state = .ok next ∧ next.Represents (m.value.changeAt n f) := by
  obtain ⟨rfl, inside⟩ := located
  refine ⟨_, ?_, represents_changeAt inside turned⟩
  rw [put, write_eq_ok inside]
  rfl

theorem Locates.represents_of_fixed (located : m.Locates i n) {f : Cell → Cell}
    (fixed : f (m.value.stateAt n) = m.value.stateAt n) : m.Represents (m.value.changeAt n f) := by
  obtain ⟨rfl, inside⟩ := located
  have written := represents_changeAt inside (fixed.trans (stateAt_value inside))
  rwa [Array.set_getElem_self] at written

theorem get_matches (sound : m.value.WellFormed) (x y : UInt64) :
    Matches Refused (fun state n => state.toNat = n) (m.get x y) (m.value.get x.toNat y.toNat) := by
  refine (index_matches sound x y).bind fun i n located => ?_
  obtain ⟨state, found, state_eq⟩ := located.read_eq_ok
  rw [found]
  exact .ok state_eq

@[simp] theorem toNat_depth (m : Board) : m.depth.toNat = m.configuration.depth :=
  UInt8.toNat_ofNat_of_lt' (m.configuration.depth_le.trans_lt (by decide))

theorem toNat_maxState (m : Board) : m.maxState.toNat = m.configuration.maxState := by
  have depth_eq := m.toNat_depth
  unfold maxState Configuration.maxState
  split
  · next shallow =>
    rw [UInt8.lt_iff_toNat_lt, depth_eq] at shallow
    exact (max_eq_right shallow.le).symm
  · next deep =>
    rw [UInt8.lt_iff_toNat_lt, depth_eq, not_lt] at deep
    exact depth_eq.trans (max_eq_left deep).symm

theorem set_matches (sound : m.value.WellFormed) (x y : UInt64) (state : UInt8) :
    Matches Refused Represents (m.set x y state) (m.value.set x.toNat y.toNat state.toNat) := by
  refine (index_matches sound x y).bind fun i n located => ?_
  have max_eq : m.maxState.toNat = m.value.configuration.maxState := m.toNat_maxState
  by_cases allowed : state ≤ m.maxState
  · obtain ⟨next, changed, next_eq⟩ := located.put_eq_ok state (f := fun _ => state.toNat) rfl
    rw [if_neg (UInt8.not_lt.mpr allowed), if_pos (max_eq ▸ allowed), changed]
    exact .ok next_eq
  · rw [if_pos (UInt8.not_le.mp allowed), if_neg (max_eq ▸ allowed), ← max_eq]
    exact .error rfl

theorem raise_matches (sound : m.value.WellFormed) (x y : UInt64) :
    Matches Refused Represents (m.raise x y) (m.value.raise x.toNat y.toNat) := by
  refine (index_matches sound x y).bind fun i n located => ?_
  obtain ⟨state, found, state_eq⟩ := located.read_eq_ok
  rw [found, ok_bind]
  split
  · next dead =>
    obtain ⟨next, changed, next_eq⟩ := located.put_eq_ok 1
      (f := fun state => if state = Cell.dead then Cell.alive else state)
      (if_pos (by rw [← state_eq, dead]; rfl))
    rw [changed]
    exact .ok next_eq
  · next other =>
    refine .ok (located.represents_of_fixed (if_neg fun dead => other ?_))
    rw [← UInt8.toNat_inj, state_eq, dead]
    rfl

theorem kill_matches (sound : m.value.WellFormed) (x y : UInt64) :
    Matches Refused Represents (m.kill x y) (m.value.kill x.toNat y.toNat) := by
  refine (index_matches sound x y).bind fun i n located => ?_
  obtain ⟨next, changed, next_eq⟩ := located.put_eq_ok 0 (f := fun _ => Cell.dead) rfl
  rw [changed]
  exact .ok next_eq

/-! ### Neighbours -/

/-- A neighbour is taken exactly if it is on the grid over the integers, and the word is its index. -/
structure Takes (m : Board) (x y : UInt64) (o : Int32 × Int32) (taken : Option UInt64) : Prop where
  isSome_iff : taken.isSome ↔
    (0 ≤ (x.toNat : ℤ) + o.1.toInt ∧ (x.toNat : ℤ) + o.1.toInt < m.width.toNat) ∧
      (0 ≤ (y.toNat : ℤ) + o.2.toInt ∧ (y.toNat : ℤ) + o.2.toInt < m.height.toNat)
  index_eq : ∀ i ∈ taken, i.toNat < m.cells.size ∧
    (i.toNat : ℤ) = ((y.toNat : ℤ) + o.2.toInt) * m.width.toNat + ((x.toNat : ℤ) + o.1.toInt)

theorem Takes.of_outside {o : Int32 × Int32}
    (outside : ¬((0 ≤ (x.toNat : ℤ) + o.1.toInt ∧ (x.toNat : ℤ) + o.1.toInt < m.width.toNat) ∧
      (0 ≤ (y.toNat : ℤ) + o.2.toInt ∧ (y.toNat : ℤ) + o.2.toInt < m.height.toNat))) :
    m.Takes x y o none where
  isSome_iff := by simpa using outside
  index_eq i mem := by cases mem

theorem exists_takes (sound : m.value.WellFormed) (x y : UInt64) (o : Int32 × Int32) :
    ∃ taken, m.neighbour? x y o = .ok taken ∧ m.Takes x y o taken := by
  have width_lt := m.width.toNat_lt_size
  have height_lt := m.height.toNat_lt_size
  unfold neighbour?
  cases column : moved? x o.1 with
  | none =>
    rw [moved?_eq_none_iff] at column
    exact ⟨none, rfl, .of_outside (by omega)⟩
  | some nx =>
    cases row : moved? y o.2 with
    | none =>
      rw [moved?_eq_none_iff] at row
      exact ⟨none, rfl, .of_outside (by omega)⟩
    | some ny =>
      rw [moved?_eq_some_iff] at column row
      by_cases inside : nx < m.width ∧ ny < m.height
      · obtain ⟨i, placed, i_eq, bound⟩ := place_eq_ok sound inside
        have nx_lt : nx.toNat < m.width.toNat := inside.1
        have ny_lt : ny.toNat < m.height.toNat := inside.2
        refine ⟨some i, by simp only [if_pos inside, placed]; rfl, ⟨?_, ?_⟩⟩
        · simp only [Option.isSome_some, true_iff]
          omega
        · intro j mem
          cases mem
          rw [column, row]
          exact ⟨bound, by rw [i_eq]; push_cast; rfl⟩
      · refine ⟨none, by simp only [if_neg inside]; rfl, .of_outside ?_⟩
        rw [UInt64.lt_iff_toNat_lt, UInt64.lt_iff_toNat_lt] at inside
        omega

theorem isLiveBeside_eq_ok (sound : m.value.WellFormed) (x y : UInt64) (o : Int32 × Int32) :
    m.isLiveBeside x y o =
      .ok (m.value.isAlive ((x.toNat : ℤ) + o.1.toInt) ((y.toNat : ℤ) + o.2.toInt)) := by
  obtain ⟨taken, found, isSome_iff, index_eq⟩ := exists_takes sound x y o
  rw [isLiveBeside, found, ok_bind]
  generalize (x.toNat : ℤ) + o.1.toInt = column at isSome_iff index_eq ⊢
  generalize (y.toNat : ℤ) + o.2.toInt = row at isSome_iff index_eq ⊢
  cases taken with
  | none =>
    have away : m.value.isAlive column row = false := by
      rw [Bool.eq_false_iff, ne_eq, isAlive_iff]
      rintro ⟨⟨nx, ny⟩, ⟨rfl, rfl⟩, ⟨right, bottom⟩, -⟩
      have off := mt isSome_iff.mpr Bool.false_ne_true
      exact off ⟨⟨Int.natCast_nonneg _, Int.ofNat_lt.mpr right⟩,
        Int.natCast_nonneg _, Int.ofNat_lt.mpr bottom⟩
    rw [away]
    rfl
  | some i =>
    obtain ⟨⟨left, right⟩, top, bottom⟩ := isSome_iff.mp rfl
    obtain ⟨bound, i_eq⟩ := index_eq i rfl
    lift column to ℕ using left
    lift row to ℕ using top
    have located : m.Locates i (row * m.value.width + column) :=
      ⟨by exact_mod_cast i_eq, bound⟩
    have inside : column < m.value.width ∧ row < m.value.height :=
      ⟨Int.ofNat_lt.mp right, Int.ofNat_lt.mp bottom⟩
    obtain ⟨state, read, state_eq⟩ := located.read_eq_ok
    rw [isAlive_of_mem inside, ← state_eq, ← beq_one_eq]
    simp [read]

theorem countLive_eq_ok (sound : m.value.WellFormed) (x y : UInt64) :
    ∃ count, m.countLive x y = .ok count ∧ count.toNat = m.value.countLive x.toNat y.toNat := by
  have few : m.value.countLive x.toNat y.toNat < UInt32.size :=
    ((countLive_le_neighbourCount sound.offsets_eq _ _).trans
      m.configuration.neighbourCount_le).trans_lt (by decide)
  have same : m.value.countLive x.toNat y.toNat = m.offsets.countP fun o =>
      m.value.isAlive ((x.toNat : ℤ) + o.1.toInt) ((y.toNat : ℤ) + o.2.toInt) := List.countP_map
  rw [same, ← Nat.zero_add (List.countP _ _)] at few ⊢
  exact Word.tally_eq_ok (fun o _ => isLiveBeside_eq_ok sound x y o) 0 few

theorem liveNeighbours_matches (sound : m.value.WellFormed) (x y : UInt64) :
    Matches Refused (fun count n => count.toNat = n) (m.liveNeighbours x y)
      (m.value.liveNeighbours x.toNat y.toNat) := by
  refine (index_matches sound x y).bind fun i n _ => ?_
  obtain ⟨count, counted, count_eq⟩ := countLive_eq_ok sound x y
  rw [counted]
  exact .ok count_eq

/-! ### The next state -/

theorem nextState_eq_ok (sound : m.value.WellFormed) (inside : x < m.width ∧ y < m.height) :
    ∃ next, m.nextState x y = .ok next ∧ next.toNat = m.value.nextState x.toNat y.toNat := by
  obtain ⟨i, placed, located⟩ := place_eq_ok sound inside
  obtain ⟨state, found, state_eq⟩ := located.read_eq_ok
  obtain ⟨count, counted, count_eq⟩ := countLive_eq_ok sound x y
  have rule : m.value.nextState x.toNat y.toNat =
      m.configuration.transition state.toNat count.toNat := by
    rw [LargerThanLife.Board.nextState, count_eq, state_eq]
    rfl
  rw [rule, nextState, placed, ok_bind, found, ok_bind, counted]
  by_cases dead : state = 0
  · subst dead
    exact ⟨_, if_pos rfl, apply_ite UInt8.toNat _ _ _⟩
  by_cases alive : state = 1
  · subst alive
    refine ⟨_, (if_neg (by decide)).trans (if_pos rfl), ?_⟩
    rw [apply_ite UInt8.toNat, apply_ite UInt8.toNat]
    rfl
  rw [if_neg dead, if_neg alive]
  obtain ⟨s, stage⟩ : ∃ s, state.toNat = s + 2 := by
    rw [← UInt8.toNat_inj] at dead alive
    exact ⟨state.toNat - 2, by simp at dead alive; omega⟩
  have last_iff : m.depth ≤ state ↔ m.configuration.depth ≤ s + 2 := by
    rw [UInt8.le_iff_toNat_le, toNat_depth, stage]
  rw [stage, Configuration.transition, if_congr last_iff rfl rfl]
  split
  · exact ⟨0, rfl, rfl⟩
  · next further =>
    -- the next stage is at most the last one, which is far below the greatest byte
    have fits : state.toNat + 1 < UInt8.size := by
      have := m.configuration.depth_le
      rw [stage, UInt8.size]
      omega
    obtain ⟨next, counted, next_eq⟩ := Word.fit_eq_ok (w := byte) fits
    refine ⟨next, counted, next_eq.trans ?_⟩
    rw [stage]

end Machine.Board

end LargerThanLife
