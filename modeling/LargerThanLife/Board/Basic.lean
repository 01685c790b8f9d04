import LargerThanLife.Configuration
import LargerThanLife.Random.Coin

/-! Boards of cells. A board has a fixed size and a ruleset; its cells are stored row by row, so the
cell in column `x` of row `y` has the index `y * width + x`. Coordinates start at zero and are
checked on both axes, never by index alone. The operations here look at cells and change them one by
one or all at once; none of them looks at neighbours. -/

namespace LargerThanLife

/-- Which sizes of buffers a memory grants. No buffer has `2 ^ 63` bytes or more. -/
structure Memory where
  grants : Nat → Bool
  lt_of_grants {size : Nat} : grants size = true → size < 1 <<< 63

namespace Memory

/-- The memory that grants every size below the limit. -/
def below (limit : Nat) (le : limit ≤ 1 <<< 63) : Memory :=
  ⟨fun size => size < limit, fun granted => Nat.lt_of_lt_of_le (of_decide_eq_true granted) le⟩

/-- A memory with addresses of 48 bits. -/
def usual : Memory := below (1 <<< 48) (by decide)

@[simp] theorem grants_below {limit size : Nat} (le : limit ≤ 1 <<< 63) :
    (below limit le).grants size = true ↔ size < limit := decide_eq_true_iff

end Memory

/-- A grid of cells under a ruleset. -/
structure Board where
  width : Nat
  height : Nat
  configuration : Configuration
  /-- The relative coordinates of the neighbours, found once for the ruleset. -/
  offsets : List Offset
  /-- The states of the cells, row by row. -/
  cells : Array Cell
  /-- The room into which the next generation is written. -/
  scratch : Array Cell
  /-- The counter of steps since the board was made or reset, which starts again after `2 ^ 64`. -/
  clock : UInt64
  deriving DecidableEq, Repr

namespace Board

/-- The number of steps since the board was made or reset, as it was counted. -/
def generation (b : Board) : Nat := b.clock.toNat

def blank (width height : Nat) (c : Configuration) : Board where
  width := width
  height := height
  configuration := c
  offsets := c.offsets
  cells := Array.replicate (width * height) Cell.dead
  scratch := Array.replicate (width * height) Cell.dead
  clock := 0

/-- A board of dead cells. The width is looked at first, then the height, and then the memory is
asked for its two buffers. -/
def create (memory : Memory) (width height : Nat) (c : Configuration) : Except Fault Board :=
  if width = 0 then .error (.invalid .width .notPositive)
  else if height = 0 then .error (.invalid .height .notPositive)
  else if memory.grants (width * height) then .ok (blank width height c)
  else .error (.invalid .height (.tooLarge width height))

def square (memory : Memory) (length : Nat) (c : Configuration) : Except Fault Board :=
  create memory length length c

def index (b : Board) (x y : Nat) : Except Fault Nat :=
  if x < b.width ∧ y < b.height then .ok (y * b.width + x)
  else .error (.outOfBounds x y b.width b.height)

/-- The state at an index; there is nothing alive beyond the cells. -/
def stateAt (b : Board) (i : Nat) : Cell := b.cells.getD i Cell.dead

/-! ### Looking at cells -/

def get (b : Board) (x y : Nat) : Except Fault Cell := do
  return b.stateAt (← b.index x y)

def population (b : Board) : Nat := b.cells.count Cell.alive

def row (b : Board) (y : Nat) : Array Cell :=
  b.cells.extract (y * b.width) (y * b.width + b.width)

def rows (b : Board) : List (Array Cell) := (List.range b.height).map b.row

/-! ### Changing cells -/

def changeAt (b : Board) (i : Nat) (f : Cell → Cell) : Board :=
  { b with cells := b.cells.modify i f }

def change (b : Board) (x y : Nat) (f : Cell → Cell) : Except Fault Board := do
  return b.changeAt (← b.index x y) f

/-- Puts a cell into a state that the ruleset has. The coordinates are looked at first. -/
def set (b : Board) (x y : Nat) (state : Cell) : Except Fault Board := do
  let i ← b.index x y
  if state ≤ b.configuration.maxState then return b.changeAt i fun _ => state
  else throw (.invalidState state b.configuration.maxState)

/-- Brings a dead cell to life and leaves any other as it is. -/
def raise (b : Board) (x y : Nat) : Except Fault Board :=
  b.change x y fun state => if state = Cell.dead then Cell.alive else state

/-- Kills a cell in whatever state it is. -/
def kill (b : Board) (x y : Nat) : Except Fault Board := b.change x y fun _ => Cell.dead

/-- Kills every cell and starts counting generations again. -/
def reset (b : Board) : Board :=
  { b with cells := b.cells.map fun _ => Cell.dead, clock := 0 }

/-- Appends `count` cells, each dead or alive by the toss of a fair coin. -/
def tossCells : Nat → Array Cell → Generator → Array Cell × Generator
  | 0, cells, g => (cells, g)
  | count + 1, cells, g =>
    let (alive, g) := toss .half g
    tossCells count (cells.push (if alive then Cell.alive else Cell.dead)) g

/-- Makes every cell dead or alive by the toss of a fair coin, row by row. -/
def fill (b : Board) (g : Generator) : Board × Generator :=
  let (cells, g) := tossCells b.cells.size (Array.emptyWithCapacity b.cells.size) g
  ({ b with cells }, g)

def randomize (b : Board) (seed : UInt64) : Board := (b.fill (Generator.ofSeed seed)).1

/-! ### When operations succeed -/

theorem create_eq_ok_iff {memory : Memory} {width height : Nat} {c : Configuration} {b : Board} :
    create memory width height c = .ok b ↔
      (0 < width ∧ 0 < height ∧ memory.grants (width * height)) ∧ b = blank width height c := by
  unfold create
  split
  · next narrow => simp [narrow]
  · next wide =>
    split
    · next flat => simp [flat]
    · next high =>
      split
      · next granted =>
        simp [granted, Nat.pos_of_ne_zero wide, Nat.pos_of_ne_zero high, eq_comm]
      · next refused => simp [refused]

@[simp] theorem index_of_mem {b : Board} {x y : Nat} (h : x < b.width ∧ y < b.height) :
    b.index x y = .ok (y * b.width + x) := if_pos h

@[simp] theorem index_of_not_mem {b : Board} {x y : Nat} (h : ¬(x < b.width ∧ y < b.height)) :
    b.index x y = .error (.outOfBounds x y b.width b.height) := if_neg h

@[simp] theorem get_of_mem {b : Board} {x y : Nat} (h : x < b.width ∧ y < b.height) :
    b.get x y = .ok (b.stateAt (y * b.width + x)) := by
  rw [get, index_of_mem h]
  rfl

@[simp] theorem get_of_not_mem {b : Board} {x y : Nat} (h : ¬(x < b.width ∧ y < b.height)) :
    b.get x y = .error (.outOfBounds x y b.width b.height) := by
  rw [get, index_of_not_mem h]
  rfl

theorem change_eq_ok_iff {b next : Board} {x y : Nat} {f : Cell → Cell} :
    b.change x y f = .ok next ↔
      (x < b.width ∧ y < b.height) ∧ next = b.changeAt (y * b.width + x) f := by
  unfold change
  by_cases h : x < b.width ∧ y < b.height
  · simp only [index_of_mem h, h, true_and]
    exact ⟨fun e => (Except.ok.inj e).symm, fun e => e ▸ rfl⟩
  · simp only [index_of_not_mem h, h, false_and, iff_false]
    exact nofun

theorem set_eq_ok_iff {b next : Board} {x y : Nat} {state : Cell} :
    b.set x y state = .ok next ↔
      (x < b.width ∧ y < b.height) ∧ state ≤ b.configuration.maxState ∧
        next = b.changeAt (y * b.width + x) fun _ => state := by
  unfold set
  by_cases h : x < b.width ∧ y < b.height
  · simp only [index_of_mem h, h, true_and]
    by_cases hs : state ≤ b.configuration.maxState
    · simp only [bind, Except.bind, hs, if_true, true_and]
      exact ⟨fun e => (Except.ok.inj e).symm, fun e => e ▸ rfl⟩
    · simp only [bind, Except.bind, hs, if_false, false_and, iff_false]
      exact nofun
  · simp only [index_of_not_mem h, h, false_and, iff_false]
    exact nofun

/-- The cells of a row come before those of the next one, so the index of a cell on the board is
the index of a cell. -/
theorem index_lt {b : Board} {x y : Nat} (h : x < b.width ∧ y < b.height) :
    y * b.width + x < b.width * b.height := by
  have next : (y + 1) * b.width ≤ b.height * b.width := Nat.mul_le_mul_right _ h.2
  rw [Nat.mul_comm b.width]
  rw [Nat.succ_mul] at next
  omega

theorem size_tossCells (count : Nat) (cells : Array Cell) (g : Generator) :
    (tossCells count cells g).1.size = cells.size + count := by
  induction count generalizing cells g with
  | zero => rfl
  | succ count ih =>
    rw [tossCells, ih, Array.size_push]
    omega

/-- A coin makes a cell dead or alive and nothing else. -/
theorem le_alive_of_mem_tossCells {count : Nat} {cells : Array Cell} {g : Generator}
    (h : ∀ state ∈ cells, state ≤ Cell.alive) :
    ∀ state ∈ (tossCells count cells g).1, state ≤ Cell.alive := by
  induction count generalizing cells g with
  | zero => exact h
  | succ count ih =>
    apply ih
    intro state mem
    rcases Array.mem_push.mp mem with old | rfl
    · exact h state old
    · split <;> decide

end Board

end LargerThanLife
