import LargerThanLife.Board.Basic

/-! Generations. A step gives every cell the state that the rule demands for its state and the
number of its live neighbours, all of them counted on the grid as it was before the step. The grid
has edges: there is nothing beyond them. -/

namespace LargerThanLife.Board

/-- Is there a live cell in column `x` of row `y`? There is none off the board. -/
def isAlive (b : Board) (x y : Int) : Bool :=
  0 ≤ x && x < b.width && 0 ≤ y && y < b.height &&
    b.stateAt (y.toNat * b.width + x.toNat) == Cell.alive

def countLive (b : Board) (x y : Nat) : Nat :=
  b.offsets.countP fun o => b.isAlive (x + o.dx) (y + o.dy)

def liveNeighbours (b : Board) (x y : Nat) : Except Fault Nat := do
  let _ ← b.index x y
  return b.countLive x y

def nextState (b : Board) (x y : Nat) : Cell :=
  b.configuration.transition (b.stateAt (y * b.width + x)) (b.countLive x y)

/-- The next generation. It is written into the scratch room, which then changes places with the
cells. -/
def step (b : Board) : Board :=
  { b with
    cells := b.scratch.mapIdx fun i _ => b.nextState (i % b.width) (i / b.width)
    scratch := b.cells
    clock := b.clock + 1 }

def stepN : Nat → Board → Board
  | 0, b => b
  | n + 1, b => stepN n b.step

def liveRows (b : Board) : List (List Nat) :=
  (List.range b.height).map fun y => (List.range b.width).map fun x => b.countLive x y

@[simp] theorem liveNeighbours_of_mem {b : Board} {x y : Nat} (h : x < b.width ∧ y < b.height) :
    b.liveNeighbours x y = .ok (b.countLive x y) := by
  rw [liveNeighbours, index_of_mem h]
  rfl

/-- A step overwrites all of the scratch room, so nothing of what it held is left. -/
theorem stateAt_step {b : Board} {i : Nat} (h : i < b.scratch.size) :
    b.step.stateAt i = b.nextState (i % b.width) (i / b.width) := by
  simp [step, stateAt, Array.getD, h]

end LargerThanLife.Board
