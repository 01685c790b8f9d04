import LargerThanLife.Proofs.Board.Invariant
import LargerThanLife.Proofs.Machine.Cell

/-! Whole boards in machine words. Every operation keeps a board sound, and on a sound board the
machine never stops: what it computes is what is computed with unbounded integers, and it refuses what
is refused there. The one bound that a course of events has to respect is that of the clock, so fewer
than `2 ^ 64` steps are taken in it. -/

namespace LargerThanLife

namespace Machine.Board

variable {m : Board} {width height : UInt64} {c : Configuration}

/-! ### New boards -/

theorem offsetsOf_value (c : Configuration) :
    (offsetsOf c).map (fun o => (⟨o.1.toInt, o.2.toInt⟩ : Offset)) = c.offsets := by
  have near (o : Offset) (mem : o ∈ c.offsets) : o.dx.natAbs ≤ 10 ∧ o.dy.natAbs ≤ 10 := by
    rw [Configuration.offsets, Shape.mem_offsets] at mem
    have within := (Shape.contains_iff.mp mem.2).trans c.radius_le
    obtain ⟨column, row⟩ := c.shape.natAbs_le_distance o.dx o.dy
    exact ⟨column.trans within, row.trans within⟩
  rw [offsetsOf, List.map_map]
  conv_rhs => rw [← List.map_id c.offsets]
  refine List.map_congr_left fun o mem => ?_
  obtain ⟨column, row⟩ := near o mem
  have least : Int32.minValue.toInt = -2147483648 := rfl
  have greatest : Int32.maxValue.toInt = 2147483647 := rfl
  rw [Function.comp_apply, Int32.toInt_ofInt_of_le (by omega) (by omega),
    Int32.toInt_ofInt_of_le (by omega) (by omega)]
  rfl

theorem represents_blank (width height : UInt64) (c : Configuration) :
    Represents ⟨width, height, c, offsetsOf c, Array.replicate (width.toNat * height.toNat) 0,
      Array.replicate (width.toNat * height.toNat) 0, 0⟩ (.blank width.toNat height.toNat c) := by
  simp only [Represents, value, LargerThanLife.Board.blank, offsetsOf_value, Array.map_replicate]
  rfl

/-- With one memory, boards are made and refused as they are with unbounded integers. -/
theorem create_matches (memory : Memory) (width height : UInt64) (c : Configuration) :
    Matches Refused Represents (create memory width height c)
      (LargerThanLife.Board.create memory width.toNat height.toNat c) := by
  unfold create LargerThanLife.Board.create
  have narrow : width = 0 ↔ width.toNat = 0 := UInt64.toNat_inj.symm
  have flat : height = 0 ↔ height.toNat = 0 := UInt64.toNat_inj.symm
  -- a size that is no word is too large for any memory
  have beyond : (decide (UInt64.size ≤ width.toNat * height.toNat) ||
      !memory.grants (width.toNat * height.toNat)) = true ↔
        ¬memory.grants (width.toNat * height.toNat) := by
    simp only [Bool.or_eq_true, decide_eq_true_eq, Bool.not_eq_true', Bool.not_eq_true, or_iff_right_iff_imp]
    intro large
    refine Bool.eq_false_iff.mpr fun granted => ?_
    exact absurd (memory.lt_of_grants granted) (Nat.not_lt.mpr (Nat.le_trans (by decide) large))
  dsimp only
  rw [if_congr narrow rfl rfl, if_congr flat rfl rfl, if_congr beyond rfl rfl, ite_not]
  exact .ite (fun _ => .error rfl) fun _ => .ite (fun _ => .error rfl) fun _ =>
    .ite (fun _ => .ok (represents_blank width height c)) fun _ => .error rfl

theorem represents_of_create {memory : Memory} {start : Board}
    (made : create memory width height c = .ok start) :
    start.Represents (.blank width.toNat height.toNat c) ∧ start.value.WellFormed := by
  have matched := create_matches memory width height c
  rw [made] at matched
  cases created : LargerThanLife.Board.create memory width.toNat height.toNat c with
  | error fault =>
    rw [created] at matched
    cases matched
  | ok b =>
    rw [created] at matched
    cases matched with
    | ok represents =>
      obtain ⟨-, rfl⟩ := LargerThanLife.Board.create_eq_ok_iff.mp created
      refine ⟨represents, ?_⟩
      rw [represents]
      exact (LargerThanLife.Board.Sound.of_create created).wellFormed

/-! ### All cells -/

theorem population_eq_ok (sound : m.value.WellFormed) :
    ∃ count, m.population = .ok count ∧ count.toNat = m.value.population := by
  have same : m.value.population = m.cells.toList.countP fun state => state == 1 := by
    rw [LargerThanLife.Board.population, value, Array.count, Array.countP_map, ← Array.countP_toList]
    exact List.countP_congr fun state _ => by rw [beq_one_eq]; rfl
  have few : m.cells.toList.countP (fun state => state == 1) < UInt64.size := by
    refine List.countP_le_length.trans_lt ?_
    rw [Array.length_toList, size_cells_eq sound]
    exact area_lt_size sound
  rw [same]
  rw [← Nat.zero_add (List.countP _ _)] at few ⊢
  exact Word.tally_eq_ok (fun _ _ => rfl) 0 few

theorem rows_eq_ok (sound : m.value.WellFormed) :
    ∃ rows, m.rows = .ok rows ∧
      rows.map (List.map UInt8.toNat) = m.value.rows.map Array.toList := by
  have whole : m.cells.toList.length = m.height.toNat * m.width.toNat := by
    rw [Array.length_toList, size_cells_eq sound, Nat.mul_comm]
  refine ⟨_, if_neg (width_ne_zero sound), ?_⟩
  rw [pieces_eq_map_range (width_pos sound) m.height.toNat whole, LargerThanLife.Board.rows,
    List.map_map, List.map_map]
  refine List.map_congr_left fun y _ => ?_
  simp [LargerThanLife.Board.row, value]

theorem represents_reset (m : Board) : m.reset.Represents m.value.reset := by
  simp [Represents, reset, value, LargerThanLife.Board.reset]

@[simp] theorem toNat_tossState (g : Generator) :
    (tossState g).1.toNat = if (toss .half g).1 then Cell.alive else Cell.dead :=
  apply_ite UInt8.toNat _ _ _

/-- Tossing for the cells of a list is tossing as many states, appended one by one. -/
theorem tossCells_length (states : List UInt8) (cells : Array Cell) (g : Generator) :
    LargerThanLife.Board.tossCells states.length cells g =
      (cells ++ ((tossStates states g).1.map UInt8.toNat).toArray, (tossStates states g).2) := by
  induction states generalizing cells g with
  | nil => simp [LargerThanLife.Board.tossCells, tossStates]
  | cons state states ih =>
    have pushed : LargerThanLife.Board.tossCells (states.length + 1) cells g =
        LargerThanLife.Board.tossCells states.length
          (cells.push (if (toss .half g).1 then Cell.alive else Cell.dead)) (toss .half g).2 := rfl
    rw [List.length_cons, pushed, ih, ← toNat_tossState]
    simp [tossStates, tossState]

theorem represents_fill (m : Board) (g : Generator) :
    (m.fill g).1.Represents (m.value.fill g).1 ∧ (m.fill g).2 = (m.value.fill g).2 := by
  have size : m.value.cells.size = m.cells.toList.length := Array.size_map
  rw [LargerThanLife.Board.fill, size, tossCells_length]
  refine ⟨?_, rfl⟩
  simp [Represents, fill, value]

/-! ### Generations -/

/-- The states from a place on. The places run through the grid row by row, and the one after the last is
still a word. -/
theorem nextStates_eq_ok (sound : m.value.WellFormed) (room : List UInt8) (i : UInt64)
    (fits : i.toNat + room.length ≤ m.width.toNat * m.height.toNat) :
    ∃ states, m.nextStates room i = .ok states ∧ states.map UInt8.toNat = room.mapIdx fun k _ =>
      m.value.nextState ((i.toNat + k) % m.width.toNat) ((i.toNat + k) / m.width.toNat) := by
  have area_lt := area_lt_size sound
  induction room generalizing i with
  | nil => exact ⟨[], rfl, rfl⟩
  | cons _ room ih =>
    rw [List.length_cons] at fits
    have inside : i % m.width < m.width ∧ i / m.width < m.height := by
      rw [UInt64.lt_iff_toNat_lt, UInt64.lt_iff_toNat_lt, UInt64.toNat_mod, UInt64.toNat_div]
      exact ⟨Nat.mod_lt _ (width_pos sound), Nat.div_lt_of_lt_mul (by omega)⟩
    obtain ⟨state, computed, state_eq⟩ := nextState_eq_ok sound inside
    have further : i.toNat + 1 < UInt64.size := by omega
    obtain ⟨next, counted, next_eq⟩ : ∃ next, full.next i = .ok next ∧ next.toNat = i.toNat + 1 :=
      Word.fit_eq_ok further
    obtain ⟨states, found, states_eq⟩ := ih next (by omega)
    refine ⟨state :: states, ?_, ?_⟩
    · have width_ne := width_ne_zero sound
      simp [nextStates, remainder, quotient, width_ne, computed, counted, found]
    · rw [List.map_cons, List.mapIdx_cons, state_eq, states_eq, next_eq, UInt64.toNat_mod,
        UInt64.toNat_div]
      simp only [Nat.add_zero, Nat.add_assoc, Nat.add_comm 1]

theorem toNat_add_one_of_lt {n : UInt64} (fits : n.toNat + 1 < UInt64.size) :
    (n + 1).toNat = n.toNat + 1 := by
  rw [UInt64.toNat_add]
  exact Nat.mod_eq_of_lt fits

theorem step_eq_ok (sound : m.value.WellFormed) (fits : m.generation.toNat + 1 < UInt64.size) :
    ∃ next, m.step = .ok next ∧ next.Represents m.value.step := by
  have room : m.scratch.size = m.width.toNat * m.height.toNat :=
    Array.size_map.symm.trans sound.size_scratch
  obtain ⟨states, computed, states_eq⟩ := nextStates_eq_ok sound m.scratch.toList 0
    (by rw [Array.length_toList, room]; exact (Nat.zero_add _).le)
  obtain ⟨generation, counted, generation_eq⟩ :
      ∃ n, full.next m.generation = .ok n ∧ n.toNat = m.generation.toNat + 1 := Word.fit_eq_ok fits
  -- the states are written over the old ones, of which only the number counts
  have represents : Represents
      { m with cells := states.toArray, scratch := m.cells, generation } m.value.step := by
    have clock_eq : generation = m.generation + 1 := by
      rw [← UInt64.toNat_inj, generation_eq, toNat_add_one_of_lt fits]
    have cells_eq : states.toArray.map UInt8.toNat = m.value.step.cells := by
      apply Array.toList_inj.mp
      rw [Array.toList_map, states_eq, LargerThanLife.Board.step, Array.toList_mapIdx]
      apply List.ext_getElem?
      intro i
      rw [List.getElem?_mapIdx, List.getElem?_mapIdx, value, Array.toList_map, List.getElem?_map,
        Option.map_map, UInt64.toNat_zero, Nat.zero_add]
      rfl
    rw [Represents, value, cells_eq, clock_eq]
    rfl
  obtain ⟨count, tallied, -⟩ := population_eq_ok (represents ▸ LargerThanLife.Board.WellFormed.step sound)
  refine ⟨_, ?_, represents⟩
  simp [step, computed, counted, tallied]

theorem stepN_eq_ok (sound : m.value.WellFormed) (n : ℕ)
    (fits : m.generation.toNat + n < UInt64.size) :
    ∃ next, stepN n m = .ok next ∧ next.Represents (.stepN n m.value) := by
  induction n generalizing m with
  | zero => exact ⟨m, rfl, rfl⟩
  | succ n ih =>
    have once : m.generation.toNat + 1 < UInt64.size := by omega
    obtain ⟨next, stepped, next_eq⟩ := step_eq_ok sound once
    have clock_eq : next.generation = m.generation + 1 := congrArg LargerThanLife.Board.clock next_eq
    have rest : next.generation.toNat + n < UInt64.size := by
      rw [clock_eq, toNat_add_one_of_lt once]
      omega
    obtain ⟨last, found, last_eq⟩ := ih (next_eq ▸ LargerThanLife.Board.WellFormed.step sound) rest
    rw [next_eq] at last_eq
    refine ⟨last, ?_, last_eq⟩
    simp [stepN, stepped, found]

/-! ### Courses of events -/

theorem apply_matches (sound : m.value.WellFormed) (op : Operation)
    (fits : m.generation.toNat + op.steps < UInt64.size) :
    Matches Refused Represents (m.apply op) (m.value.apply op.value) := by
  cases op with
  | set x y state => exact set_matches sound x y state
  | raise x y => exact raise_matches sound x y
  | kill x y => exact kill_matches sound x y
  | step =>
    obtain ⟨next, stepped, next_eq⟩ := step_eq_ok sound fits
    rw [apply, stepped]
    exact .ok next_eq
  | stepN n =>
    obtain ⟨next, stepped, next_eq⟩ := stepN_eq_ok sound n.toNat fits
    rw [apply, stepped]
    exact .ok next_eq
  | fill g => exact .ok (represents_fill m g).1
  | reset => exact .ok (represents_reset m)

theorem after_eq_ok (sound : m.value.WellFormed) (op : Operation)
    (fits : m.generation.toNat + op.steps < UInt64.size) :
    ∃ next, m.after op = .ok next ∧ next.Represents (m.value.after op.value) := by
  have matched := apply_matches sound op fits
  unfold after LargerThanLife.Board.after
  generalize m.apply op = outcome at matched ⊢
  generalize m.value.apply op.value = expected at matched ⊢
  cases matched with
  | error refused =>
    rw [Refused] at refused
    subst refused
    exact ⟨m, rfl, rfl⟩
  | ok represents => exact ⟨_, rfl, represents⟩

theorem stepsAfter_le (op : Operation) (steps : ℕ) : op.value.stepsAfter steps ≤ steps + op.steps := by
  cases op <;> simp [Operation.value, Operation.steps, LargerThanLife.Operation.stepsAfter]

theorem generation_after {next : Board} {op : Operation}
    (represents : next.Represents (m.value.after op.value))
    (fits : m.generation.toNat + op.steps < UInt64.size) :
    next.generation.toNat = op.value.stepsAfter m.generation.toNat := by
  have shown : m.value.clock = UInt64.ofNat m.generation.toNat := UInt64.ofNat_toNat.symm
  have clock_eq : next.generation = (m.value.after op.value).clock :=
    congrArg LargerThanLife.Board.clock represents
  rw [clock_eq, LargerThanLife.Board.clock_after op.value shown]
  exact UInt64.toNat_ofNat_of_lt' ((stepsAfter_le op _).trans_lt fits)

/-- A run comes to an end, at the board to which it leads with unbounded integers. -/
theorem run_eq_ok (sound : m.value.WellFormed) (ops : List Operation)
    (fits : m.generation.toNat + (ops.map Operation.steps).sum < UInt64.size) :
    ∃ last, m.run ops = .ok last ∧ last.Represents (m.value.run (ops.map Operation.value)) ∧
      last.value.WellFormed ∧ last.generation.toNat =
        (ops.map Operation.value).foldl LargerThanLife.Operation.stepsAfter m.generation.toNat := by
  induction ops generalizing m with
  | nil => exact ⟨m, rfl, rfl, sound, rfl⟩
  | cons op ops ih =>
    rw [List.map_cons, List.sum_cons] at fits
    have now : m.generation.toNat + op.steps < UInt64.size := by omega
    obtain ⟨next, changed, represents⟩ := after_eq_ok sound op now
    have counted := generation_after represents now
    have counted_le := stepsAfter_le op m.generation.toNat
    obtain ⟨last, found, last_eq, last_sound, generation_eq⟩ :=
      ih (represents ▸ sound.after op.value) (by omega)
    rw [represents] at last_eq
    rw [counted] at generation_eq
    refine ⟨last, ?_, last_eq, last_sound, generation_eq⟩
    simpa [run, changed] using found

/-- What an operation has made of a machine board stands for the given board, and the generation is the
number of steps over the natural numbers. -/
structure Follows (m : Board) (op : Operation) (next : Board) (b : LargerThanLife.Board) : Prop where
  represents : next.Represents b
  generation_eq : next.generation.toNat = op.value.stepsAfter m.generation.toNat

/-- Nothing stops the machine on the board, and all that it computes is what is computed with unbounded
integers: it refuses what is refused there, and every result is the same number. -/
structure Exact (m : Board) : Prop where
  index : ∀ x y, Matches Refused m.Locates (m.index x y) (m.value.index x.toNat y.toNat)
  get : ∀ x y,
    Matches Refused (fun state n => state.toNat = n) (m.get x y) (m.value.get x.toNat y.toNat)
  neighbour : ∀ x y o, ∃ taken, m.neighbour? x y o = .ok taken ∧ m.Takes x y o taken
  liveNeighbours : ∀ x y, Matches Refused (fun count n => count.toNat = n) (m.liveNeighbours x y)
    (m.value.liveNeighbours x.toNat y.toNat)
  rows : ∃ rows, m.rows = .ok rows ∧ rows.map (List.map UInt8.toNat) = m.value.rows.map Array.toList
  population : ∃ count, m.population = .ok count ∧ count.toNat = m.value.population
  apply : ∀ op, m.generation.toNat + op.steps < UInt64.size →
    Matches Refused (m.Follows op) (m.apply op) (m.value.apply op.value)

theorem exact_of_sound (sound : m.value.WellFormed) : m.Exact where
  index := index_matches sound
  get := get_matches sound
  neighbour := exists_takes sound
  liveNeighbours := liveNeighbours_matches sound
  rows := rows_eq_ok sound
  population := population_eq_ok sound
  apply op fits := by
    have matched := apply_matches sound op fits
    generalize m.apply op = outcome at matched ⊢
    cases applied : m.value.apply op.value with
    | error fault =>
      rw [applied] at matched
      cases matched with
      | error refused => exact .error refused
    | ok b =>
      rw [applied] at matched
      cases matched with
      | ok represents =>
        refine .ok ⟨represents, generation_after ?_ fits⟩
        rw [LargerThanLife.Board.after, applied]
        exact represents

/-- On a machine that grants less than `2 ^ 63` cells, every course of events of fewer than `2 ^ 64` steps
comes to its end: no sum, product or count overflows in it, nothing is divided by zero or cut into
pieces of no length, and no index is past the end of a buffer. The board that it leads to is the one of
unbounded integers, and all that can be asked of it or done to it next is exact as well. -/
theorem run_exact {memory : Memory} {start : Board}
    (made : create memory width height c = .ok start) (ops : List Operation)
    (few : (ops.map Operation.steps).sum < UInt64.size) :
    ∃ m, start.run ops = .ok m ∧
      m.value = (LargerThanLife.Board.blank width.toNat height.toNat c).run (ops.map Operation.value) ∧
      m.generation.toNat = LargerThanLife.Operation.stepsSinceReset (ops.map Operation.value) ∧
      m.Exact := by
  obtain ⟨represents, sound⟩ := represents_of_create made
  have new : start.generation = 0 := congrArg LargerThanLife.Board.clock represents
  obtain ⟨m, found, m_eq, m_sound, generation_eq⟩ :=
    run_eq_ok sound ops (by rw [new, UInt64.toNat_zero, Nat.zero_add]; exact few)
  rw [represents] at m_eq
  rw [new] at generation_eq
  exact ⟨m, found, m_eq, generation_eq, exact_of_sound m_sound⟩

/-- Seven operations on six cells, one of which is refused. Three steps are taken after the reset. -/
theorem run_exact_refused :
    ∃ start m : Board, create .usual 3 2 .decaying = .ok start ∧
      start.run [.raise 0 0, .set 2 1 3, .step, .kill 9 9, .reset, .step, .stepN 2] = .ok m ∧
      m.generation.toNat = 3 ∧ m.Exact := by
  have made : create .usual 3 2 .decaying = .ok ⟨3, 2, .decaying, offsetsOf .decaying,
      Array.replicate 6 0, Array.replicate 6 0, 0⟩ := rfl
  obtain ⟨m, found, -, generation_eq, exact⟩ := run_exact made
    [.raise 0 0, .set 2 1 3, .step, .kill 9 9, .reset, .step, .stepN 2] (by decide)
  exact ⟨_, m, made, found, generation_eq, exact⟩

end Machine.Board

end LargerThanLife
