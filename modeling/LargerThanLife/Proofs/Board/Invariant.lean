import LargerThanLife.Board.Operation

/-! What every course of events keeps of a board: its size and ruleset, the offsets that belong to
the ruleset, two buffers of the size of the grid whose cells are in states that the ruleset has, and
a clock that shows the number of steps since the last reset. One lemma says it of each operation; a
run is an induction over its operations. `Reachable` names the boards that such a run leads to. -/

namespace LargerThanLife

namespace Board

/-- The board is one of the given size and ruleset, and everything it holds fits them. -/
structure Sound (width height : Nat) (c : Configuration) (b : Board) : Prop where
  width_eq : b.width = width
  height_eq : b.height = height
  configuration_eq : b.configuration = c
  offsets_eq : b.offsets = c.offsets
  area_pos : 0 < width * height
  area_lt : width * height < 1 <<< 63
  size_cells : b.cells.size = width * height
  size_scratch : b.scratch.size = width * height
  cells_le : ∀ state ∈ b.cells, state ≤ c.maxState
  scratch_le : ∀ state ∈ b.scratch, state ≤ c.maxState

/-- The board is sound for its own size and ruleset. -/
def WellFormed (b : Board) : Prop := Sound b.width b.height b.configuration b

/-- The board after some course of events that began with a new board, in whatever memory. -/
def Reachable (b : Board) : Prop :=
  ∃ memory width height c start ops,
    create memory width height c = .ok start ∧ b = start.run ops

def Everywhere (b : Board) (P : Cell → Prop) : Prop := ∀ state ∈ b.cells, P state

instance {b : Board} {P : Cell → Prop} [DecidablePred P] : Decidable (b.Everywhere P) :=
  inferInstanceAs (Decidable (∀ state ∈ b.cells, P state))

end Board

theorem Configuration.alive_le_maxState (c : Configuration) : Cell.alive ≤ c.maxState :=
  Nat.le_max_right _ _

/-- No cell passes the last stage of decay, whether aging is switched on or not. -/
theorem Configuration.transition_le_maxState (c : Configuration) (state : Cell) (live : Nat) :
    c.transition state live ≤ c.maxState := by
  have alive := c.alive_le_maxState
  unfold transition
  split
  · split
    · exact alive
    · exact Nat.zero_le _
  · split
    · exact alive
    · split
      · next h =>
        have deep : 2 ≤ c.depth := by
          simp only [ages, Bool.and_eq_true, decide_eq_true_eq] at h
          exact h.2
        exact Nat.le_trans deep (Nat.le_max_left _ _)
      · exact Nat.zero_le _
  · split
    · exact Nat.zero_le _
    · next h =>
      have below : _ + 3 ≤ c.depth := Nat.lt_of_not_le h
      exact Nat.le_trans below (Nat.le_max_left _ _)

namespace Board

/-! ### All cells -/

section Everywhere

variable {b : Board} {P Q : Cell → Prop}

theorem Everywhere.imp (all : b.Everywhere P) (weaker : ∀ state, P state → Q state) :
    b.Everywhere Q := fun state mem => weaker state (all state mem)

theorem Everywhere.changeAt (all : b.Everywhere P) (i : Nat) {f : Cell → Cell}
    (kept : ∀ state, P state → P (f state)) : (b.changeAt i f).Everywhere P := by
  intro state mem
  obtain ⟨j, hj, rfl⟩ := Array.mem_iff_getElem.mp mem
  have bound : j < b.cells.size := by simpa [Board.changeAt] using hj
  have old : P b.cells[j] := all _ (Array.getElem_mem bound)
  simp only [Board.changeAt, Array.getElem_modify]
  split
  · exact kept _ old
  · exact old

theorem everywhere_fill (b : Board) (g : Generator) : (b.fill g).1.Everywhere (· ≤ Cell.alive) :=
  le_alive_of_mem_tossCells (by simp)

theorem everywhere_reset (b : Board) : b.reset.Everywhere (· = Cell.dead) := by
  intro state mem
  obtain ⟨_, _, rfl⟩ := Array.mem_map.mp mem
  rfl

end Everywhere

/-! ### Soundness -/

namespace Sound

variable {memory : Memory} {width height : Nat} {c : Configuration} {b : Board}

theorem fits (sound : Sound width height c b) : b.offsets = b.configuration.offsets := by
  rw [sound.configuration_eq, sound.offsets_eq]

theorem on_iff (sound : Sound width height c b) {x y : Nat} :
    x < b.width ∧ y < b.height ↔ x < width ∧ y < height := by
  rw [sound.width_eq, sound.height_eq]

theorem index_lt_size (sound : Sound width height c b) {x y : Nat} (on : x < b.width ∧ y < b.height) :
    y * b.width + x < b.cells.size := by
  rw [sound.size_cells, ← sound.width_eq, ← sound.height_eq]
  exact index_lt on

theorem getElem?_cells (sound : Sound width height c b) {x y : Nat} (on : x < b.width ∧ y < b.height) :
    b.cells[y * b.width + x]? = some (b.stateAt (y * b.width + x)) := by
  simp [stateAt, sound.index_lt_size on]

theorem blank (area_pos : 0 < width * height) (area_lt : width * height < 1 <<< 63) :
    Sound width height c (blank width height c) where
  width_eq := rfl
  height_eq := rfl
  configuration_eq := rfl
  offsets_eq := rfl
  area_pos := area_pos
  area_lt := area_lt
  size_cells := Array.size_replicate
  size_scratch := Array.size_replicate
  cells_le state mem := by rw [(Array.mem_replicate.mp mem).2]; exact Nat.zero_le _
  scratch_le state mem := by rw [(Array.mem_replicate.mp mem).2]; exact Nat.zero_le _

theorem of_create (made : create memory width height c = .ok b) : Sound width height c b := by
  obtain ⟨⟨width_pos, height_pos, granted⟩, rfl⟩ := create_eq_ok_iff.mp made
  exact blank (Nat.mul_pos width_pos height_pos) (memory.lt_of_grants granted)

theorem changeAt (sound : Sound width height c b) (i : Nat) {f : Cell → Cell}
    (bounded : ∀ state ≤ c.maxState, f state ≤ c.maxState) :
    Sound width height c (b.changeAt i f) :=
  { sound with
    size_cells := by rw [← sound.size_cells]; exact Array.size_modify
    cells_le := Everywhere.changeAt sound.cells_le i bounded }

theorem step (sound : Sound width height c b) : Sound width height c b.step :=
  -- the buffers change places, so the size of each comes from the other
  { sound with
    size_cells := by rw [← sound.size_scratch]; exact Array.size_mapIdx
    size_scratch := sound.size_cells
    cells_le := by
      intro state mem
      obtain ⟨i, hi, rfl⟩ := Array.mem_mapIdx.mp mem
      rw [← sound.configuration_eq]
      exact b.configuration.transition_le_maxState _ _
    scratch_le := sound.cells_le }

theorem stepN (sound : Sound width height c b) (n : Nat) :
    Sound width height c (Board.stepN n b) := by
  induction n generalizing b with
  | zero => exact sound
  | succ n ih => exact ih sound.step

theorem fill (sound : Sound width height c b) (g : Generator) :
    Sound width height c (b.fill g).1 :=
  { sound with
    size_cells := by
      rw [← sound.size_cells]
      exact (size_tossCells _ _ _).trans (Nat.zero_add _)
    cells_le := (everywhere_fill b g).imp fun _ le => Nat.le_trans le c.alive_le_maxState }

theorem reset (sound : Sound width height c b) : Sound width height c b.reset :=
  { sound with
    size_cells := by rw [← sound.size_cells]; exact Array.size_map
    cells_le := (everywhere_reset b).imp fun _ dead => dead ▸ Nat.zero_le _ }

theorem apply (sound : Sound width height c b) {op : Operation} {next : Board}
    (h : b.apply op = .ok next) : Sound width height c next := by
  cases op with
  | set x y state =>
    obtain ⟨-, le, rfl⟩ := set_eq_ok_iff.mp h
    rw [sound.configuration_eq] at le
    exact sound.changeAt _ fun _ _ => le
  | raise x y =>
    obtain ⟨-, rfl⟩ := change_eq_ok_iff.mp h
    refine sound.changeAt _ fun state le => ?_
    split
    · exact c.alive_le_maxState
    · exact le
  | kill x y =>
    obtain ⟨-, rfl⟩ := change_eq_ok_iff.mp h
    exact sound.changeAt _ fun _ _ => Nat.zero_le _
  | step => cases h; exact sound.step
  | stepN n => cases h; exact sound.stepN n
  | fill g => cases h; exact sound.fill g
  | reset => cases h; exact sound.reset

theorem after (sound : Sound width height c b) (op : Operation) :
    Sound width height c (b.after op) := by
  unfold Board.after
  split
  · next h => exact sound.apply h
  · exact sound

theorem run (sound : Sound width height c b) (ops : List Operation) :
    Sound width height c (b.run ops) := by
  induction ops generalizing b with
  | nil => exact sound
  | cons op ops ih => exact ih (sound.after op)

theorem wellFormed (sound : Sound width height c b) : b.WellFormed := by
  rw [WellFormed, sound.width_eq, sound.height_eq, sound.configuration_eq]
  exact sound

end Sound

theorem WellFormed.step {b : Board} (sound : b.WellFormed) : b.step.WellFormed := Sound.step sound

theorem WellFormed.after {b : Board} (sound : b.WellFormed) (op : Operation) :
    (b.after op).WellFormed := (Sound.after sound op).wellFormed

/-- Some memory has room for a board of an area below `2 ^ 63`. -/
theorem exists_create {width height : Nat} (c : Configuration) (area_pos : 0 < width * height)
    (area_lt : width * height < 1 <<< 63) :
    ∃ memory, create memory width height c = .ok (blank width height c) :=
  ⟨.below (1 <<< 63) (Nat.le_refl _), create_eq_ok_iff.mpr ⟨⟨Nat.pos_of_mul_pos_right area_pos,
    Nat.pos_of_mul_pos_left area_pos, (Memory.grants_below _).mpr area_lt⟩, rfl⟩⟩

theorem reachable_of_create {memory : Memory} {width height : Nat} {c : Configuration} {b : Board}
    (made : create memory width height c = .ok b) : b.Reachable :=
  ⟨memory, width, height, c, b, [], made, rfl⟩

theorem Reachable.after {b : Board} (reach : b.Reachable) (op : Operation) :
    (b.after op).Reachable := by
  obtain ⟨memory, width, height, c, start, ops, made, rfl⟩ := reach
  refine ⟨memory, width, height, c, start, ops ++ [op], made, ?_⟩
  simp only [run, List.foldl_append, List.foldl_cons, List.foldl_nil]

theorem Reachable.sound {b : Board} (reach : b.Reachable) : b.WellFormed := by
  obtain ⟨memory, width, height, c, start, ops, made, rfl⟩ := reach
  exact ((Sound.of_create made).run ops).wellFormed

theorem Reachable.exists_create {b : Board} (reach : b.Reachable) :
    ∃ memory fresh, create memory b.width b.height b.configuration = .ok fresh := by
  obtain ⟨memory, made⟩ :=
    Board.exists_create b.configuration reach.sound.area_pos reach.sound.area_lt
  exact ⟨memory, _, made⟩

end Board

/-! ### A small board -/

/-- A ruleset of radius 1 in which live cells decay through two further stages. -/
def Configuration.decaying : Configuration :=
  ⟨1, 3, true, ⟨2, 3, by decide⟩, ⟨3, 3, by decide⟩, .moore, by decide, by decide, by decide⟩

/-- Edits of a board of three columns and two rows, of which the last two are refused. -/
def Operation.edits : List Operation :=
  [.raise 0 0, .raise 1 0, .raise 0 1, .set 2 1 3, .set 3 0 1, .set 0 0 4]

/-- A board with three live cells in a corner and a decaying one in the opposite corner. -/
def Board.corner : Board := (blank 3 2 .decaying).run Operation.edits

theorem Board.reachable_corner : corner.Reachable :=
  ⟨.usual, 3, 2, .decaying, blank 3 2 .decaying, Operation.edits, rfl, rfl⟩

/-! ### Counting steps -/

namespace Operation

/-- The number of steps since the last reset, with `steps` of them before the operation. -/
def stepsAfter (steps : Nat) : Operation → Nat
  | .step => steps + 1
  | .stepN n => steps + n
  | .reset => 0
  | _ => steps

/-- The number of single steps in a course of events since its last reset. -/
def stepsSinceReset (ops : List Operation) : Nat := ops.foldl stepsAfter 0

end Operation

namespace Board

theorem clock_stepN (n : Nat) (b : Board) : (stepN n b).clock = b.clock + UInt64.ofNat n := by
  induction n generalizing b with
  | zero => exact (UInt64.add_zero _).symm
  | succ n ih =>
    rw [stepN, ih, UInt64.ofNat_add, UInt64.add_comm (UInt64.ofNat n), ← UInt64.add_assoc]
    rfl

theorem clock_after {b : Board} {steps : Nat} (op : Operation)
    (shown : b.clock = UInt64.ofNat steps) :
    (b.after op).clock = UInt64.ofNat (op.stepsAfter steps) := by
  cases op with
  | set x y state =>
    unfold after
    split
    · next h => obtain ⟨-, -, rfl⟩ := set_eq_ok_iff.mp h; exact shown
    · exact shown
  | raise x y =>
    unfold after
    split
    · next h => obtain ⟨-, rfl⟩ := change_eq_ok_iff.mp h; exact shown
    · exact shown
  | kill x y =>
    unfold after
    split
    · next h => obtain ⟨-, rfl⟩ := change_eq_ok_iff.mp h; exact shown
    · exact shown
  | step =>
    change b.clock + 1 = UInt64.ofNat (steps + 1)
    rw [shown, UInt64.ofNat_add]
    rfl
  | stepN n =>
    change (stepN n b).clock = UInt64.ofNat (steps + n)
    rw [clock_stepN, shown, UInt64.ofNat_add]
  | fill g => exact shown
  | reset => rfl

theorem clock_run {b : Board} {steps : Nat} (ops : List Operation)
    (shown : b.clock = UInt64.ofNat steps) :
    (b.run ops).clock = UInt64.ofNat (ops.foldl Operation.stepsAfter steps) := by
  induction ops generalizing b steps with
  | nil => exact shown
  | cons op ops ih => exact ih (clock_after op shown)

/-- Every course of events, with refused operations among them, keeps the size and the ruleset of a
new board, two buffers of the size of the grid and the states within those of the ruleset; and the
generation is the number of steps since the last reset, as long as the clock has not gone round. -/
theorem sound_of_run {memory : Memory} {width height : Nat} {c : Configuration} {start : Board}
    (made : create memory width height c = .ok start ∨
      width = height ∧ square memory width c = .ok start)
    (ops : List Operation) :
    Sound width height c (start.run ops) ∧
      (Operation.stepsSinceReset ops < UInt64.size →
        (start.run ops).generation = Operation.stepsSinceReset ops) := by
  have created : create memory width height c = .ok start := by
    rcases made with made | ⟨rfl, made⟩
    · exact made
    · exact made
  refine ⟨(Sound.of_create created).run ops, fun fits => ?_⟩
  have shown : start.clock = UInt64.ofNat 0 := by
    obtain ⟨-, rfl⟩ := create_eq_ok_iff.mp created
    rfl
  rw [generation, clock_run ops shown, UInt64.toNat_ofNat']
  exact Nat.mod_eq_of_lt fits

/-- Three steps after a reset, with a fill and refused edits before it. -/
theorem sound_of_run_corner :
    create .usual 3 2 .decaying = .ok (blank 3 2 .decaying) ∧
      Sound 3 2 .decaying ((blank 3 2 .decaying).run
        (Operation.edits ++ [.step, .fill (.ofSeed 7), .reset, .kill 9 9, .step, .stepN 2])) ∧
      ((blank 3 2 .decaying).run
        (Operation.edits ++ [.step, .fill (.ofSeed 7), .reset, .kill 9 9, .step, .stepN 2])).generation
          = 3 := by
  have made : create .usual 3 2 .decaying = .ok (blank 3 2 .decaying) := rfl
  obtain ⟨sound, counted⟩ := sound_of_run (.inl made)
    (Operation.edits ++ [.step, .fill (.ofSeed 7), .reset, .kill 9 9, .step, .stepN 2])
  exact ⟨made, sound, counted (by decide)⟩

end Board

end LargerThanLife
