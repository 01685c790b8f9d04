import LargerThanLife.Board.Step

/-! Operations on a board and questions about it, as data, so that what holds of every course of
events can be stated. An operation that is refused leaves the board as it was, and the course goes
on. -/

namespace LargerThanLife

inductive Operation where
  | set (x y : Nat) (state : Cell)
  | raise (x y : Nat)
  | kill (x y : Nat)
  | step
  | stepN (n : Nat)
  /-- a random fill, in which a seed stands for the generator made from it -/
  | fill (g : Generator)
  | reset
  deriving DecidableEq, Repr

inductive Query where
  | cell (x y : Nat)
  | liveNeighbours (x y : Nat)
  | liveRows
  | cells
  | rows
  | generation
  | population
  deriving DecidableEq, Repr

inductive Answer where
  | number (n : Nat)
  | list (ns : List Nat)
  | table (rows : List (List Nat))
  deriving DecidableEq, Repr

namespace Board

def apply (b : Board) : Operation → Except Fault Board
  | .set x y state => b.set x y state
  | .raise x y => b.raise x y
  | .kill x y => b.kill x y
  | .step => .ok b.step
  | .stepN n => .ok (stepN n b)
  | .fill g => .ok (b.fill g).1
  | .reset => .ok b.reset

def ask (b : Board) : Query → Except Fault Answer
  | .cell x y => Answer.number <$> b.get x y
  | .liveNeighbours x y => Answer.number <$> b.liveNeighbours x y
  | .liveRows => .ok (.table b.liveRows)
  | .cells => .ok (.list b.cells.toList)
  | .rows => .ok (.table (b.rows.map Array.toList))
  | .generation => .ok (.number b.generation)
  | .population => .ok (.number b.population)

/-- The board after an operation, which is the same board if the operation is refused. -/
def after (b : Board) (op : Operation) : Board :=
  match b.apply op with
  | .ok next => next
  | .error _ => b

def run (b : Board) (ops : List Operation) : Board := ops.foldl after b

end Board

end LargerThanLife
