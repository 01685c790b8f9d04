import LargerThanLife.Board.Operation
import LargerThanLife.Proofs.Machine.Word

/-! Boards in machine words. Sizes, coordinates and the clock are words of 64 bits, a state is one of 8,
a count of neighbours one of 32, and the coordinates of a neighbour relative to a cell are integers of
32 bits. The operations are those of a board, written out down to each sum, product, quotient and access
to a buffer, any of which may stop the machine. `value` is the board that a machine board stands for. -/

namespace LargerThanLife.Machine

/-- A grid of cells under a ruleset, in machine words. -/
structure Board where
  width : UInt64
  height : UInt64
  configuration : Configuration
  offsets : List (Int32 × Int32)
  cells : Array UInt8
  scratch : Array UInt8
  generation : UInt64

namespace Board

/-- The board that a machine board stands for. -/
def value (m : Board) : LargerThanLife.Board where
  width := m.width.toNat
  height := m.height.toNat
  configuration := m.configuration
  offsets := m.offsets.map fun o => ⟨o.1.toInt, o.2.toInt⟩
  cells := m.cells.map UInt8.toNat
  scratch := m.scratch.map UInt8.toNat
  clock := m.generation

def offsetsOf (c : Configuration) : List (Int32 × Int32) :=
  c.offsets.map fun o => (Int32.ofInt o.dx, Int32.ofInt o.dy)

/-- A board of dead cells, if the memory has room for two buffers of its size. A size that is no word is
refused before the memory is asked. -/
def create (memory : Memory) (width height : UInt64) (c : Configuration) : Except Halt Board :=
  let size := width.toNat * height.toNat
  if width = 0 then .error (.fault (.invalid .width .notPositive))
  else if height = 0 then .error (.fault (.invalid .height .notPositive))
  else if UInt64.size ≤ size || !memory.grants size then
    .error (.fault (.invalid .height (.tooLarge width.toNat height.toNat)))
  else .ok {
    width, height
    configuration := c
    offsets := offsetsOf c
    cells := Array.replicate size 0
    scratch := Array.replicate size 0
    generation := 0 }

def depth (m : Board) : UInt8 := UInt8.ofNat m.configuration.depth

def maxState (m : Board) : UInt8 := if m.depth < 1 then 1 else m.depth

/-! ### Single cells -/

/-- The place of a cell in the buffers. -/
def place (m : Board) (x y : UInt64) : Except Halt UInt64 := do
  full.add (← full.mul y m.width) x

/-- The place of a cell, whose coordinates are checked. -/
def index (m : Board) (x y : UInt64) : Except Halt UInt64 :=
  if m.width ≤ x ∨ m.height ≤ y then
    .error (.fault (.outOfBounds x.toNat y.toNat m.width.toNat m.height.toNat))
  else m.place x y

def get (m : Board) (x y : UInt64) : Except Halt UInt8 := do
  read m.cells (← m.index x y)

def put (m : Board) (i : UInt64) (state : UInt8) : Except Halt Board := do
  return { m with cells := ← write m.cells i state }

def set (m : Board) (x y : UInt64) (state : UInt8) : Except Halt Board := do
  let i ← m.index x y
  if m.maxState < state then throw (.fault (.invalidState state.toNat m.maxState.toNat))
  else m.put i state

def raise (m : Board) (x y : UInt64) : Except Halt Board := do
  let i ← m.index x y
  if (← read m.cells i) = 0 then m.put i 1 else return m

def kill (m : Board) (x y : UInt64) : Except Halt Board := do
  m.put (← m.index x y) 0

/-! ### All cells -/

def population (m : Board) : Except Halt UInt64 :=
  full.tally (fun state => .ok (state == 1)) m.cells.toList 0

def rows (m : Board) : Except Halt (List (List UInt8)) := cut m.width m.cells

def reset (m : Board) : Board := { m with cells := m.cells.map fun _ => 0, generation := 0 }

/-- The state that the toss of a fair coin puts a cell into. -/
def tossState (g : Generator) : UInt8 × Generator :=
  let (alive, g) := toss .half g
  (if alive then 1 else 0, g)

/-- Puts every cell of the list into the state of a toss of its own. -/
def tossStates : List UInt8 → Generator → List UInt8 × Generator
  | [], g => ([], g)
  | _ :: rest, g =>
    let (state, g) := tossState g
    let (states, g) := tossStates rest g
    (state :: states, g)

def fill (m : Board) (g : Generator) : Board × Generator :=
  let (states, g) := tossStates m.cells.toList g
  ({ m with cells := states.toArray }, g)

/-! ### Generations -/

/-- The place of a neighbour in the buffers, if the neighbour is on the board. -/
def neighbour? (m : Board) (x y : UInt64) (o : Int32 × Int32) : Except Halt (Option UInt64) :=
  match moved? x o.1, moved? y o.2 with
  | some nx, some ny => if nx < m.width ∧ ny < m.height then some <$> m.place nx ny else return none
  | _, _ => return none

def isLiveBeside (m : Board) (x y : UInt64) (o : Int32 × Int32) : Except Halt Bool := do
  match ← m.neighbour? x y o with
  | some i => return (← read m.cells i) == 1
  | none => return false

def countLive (m : Board) (x y : UInt64) : Except Halt UInt32 :=
  half.tally (m.isLiveBeside x y) m.offsets 0

def liveNeighbours (m : Board) (x y : UInt64) : Except Halt UInt32 := do
  let _ ← m.index x y
  m.countLive x y

def nextState (m : Board) (x y : UInt64) : Except Halt UInt8 := do
  let state ← read m.cells (← m.place x y)
  if state = 0 then
    return if m.configuration.birth.contains (← m.countLive x y).toNat then 1 else 0
  else if state = 1 then
    return if m.configuration.survival.contains (← m.countLive x y).toNat then 1
      else if m.configuration.ages then 2 else 0
  else if m.depth ≤ state then return 0
  else byte.next state

/-- The next states of the cells from a place on, one for each entry of the room they are written
into. -/
def nextStates (m : Board) : List UInt8 → UInt64 → Except Halt (List UInt8)
  | [], _ => return []
  | _ :: rest, i => do
    let state ← m.nextState (← remainder i m.width) (← quotient i m.width)
    return state :: (← m.nextStates rest (← full.next i))

/-- The next generation. The live cells in it are counted, for a report on the step. -/
def step (m : Board) : Except Halt Board := do
  let states ← m.nextStates m.scratch.toList 0
  let generation ← full.next m.generation
  let next := { m with cells := states.toArray, scratch := m.cells, generation }
  let _ ← next.population
  return next

def stepN : Nat → Board → Except Halt Board
  | 0, m => return m
  | n + 1, m => do stepN n (← m.step)

end Board

/-! ### Courses of events -/

inductive Operation where
  | set (x y : UInt64) (state : UInt8)
  | raise (x y : UInt64)
  | kill (x y : UInt64)
  | step
  | stepN (n : UInt64)
  | fill (g : Generator)
  | reset

/-- The operation on boards that an operation on machine boards stands for. -/
def Operation.value : Operation → LargerThanLife.Operation
  | set x y state => .set x.toNat y.toNat state.toNat
  | raise x y => .raise x.toNat y.toNat
  | kill x y => .kill x.toNat y.toNat
  | step => .step
  | stepN n => .stepN n.toNat
  | fill g => .fill g
  | reset => .reset

/-- The number of steps that an operation takes. -/
def Operation.steps : Operation → Nat
  | step => 1
  | stepN n => n.toNat
  | _ => 0

namespace Board

def apply (m : Board) : Operation → Except Halt Board
  | .set x y state => m.set x y state
  | .raise x y => m.raise x y
  | .kill x y => m.kill x y
  | .step => m.step
  | .stepN n => stepN n.toNat m
  | .fill g => .ok (m.fill g).1
  | .reset => .ok m.reset

/-- The board after an operation, which is the same board if the operation is refused. -/
def after (m : Board) (op : Operation) : Except Halt Board :=
  match m.apply op with
  | .ok next => .ok next
  | .error (.fault _) => .ok m
  | .error (.trap t) => .error (.trap t)

def run (m : Board) (ops : List Operation) : Except Halt Board := ops.foldlM after m

end Board

end LargerThanLife.Machine
