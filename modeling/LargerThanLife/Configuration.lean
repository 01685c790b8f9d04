import LargerThanLife.Interval
import LargerThanLife.Neighbourhood.Offsets

/-! Rulesets of the larger-than-life family. A configuration holds a radius from 1 to 10, a decay
depth of at most 25, a flag for aging, the intervals of neighbour counts for survival and for birth,
and a neighbourhood shape; the type admits nothing else. `transition` is the rule for one cell: what
its next state is, given its state and the number of its live neighbours. -/

namespace LargerThanLife

/-- The state of a cell: 0 is dead, 1 is alive, and from 2 on it decays. -/
abbrev Cell := Nat

abbrev Cell.dead : Cell := 0

/-- A fully alive cell, the only kind that counts as a live neighbour. -/
abbrev Cell.alive : Cell := 1

/-- The stage that an aging cell enters when it does not survive. -/
abbrev Cell.firstDecay : Cell := 2

structure Configuration where
  radius : Nat
  /-- The last stage of decay. -/
  depth : Nat
  /-- Is aging switched on? -/
  aging : Bool
  survival : Interval
  birth : Interval
  shape : Shape
  radius_pos : 1 ≤ radius
  radius_le : radius ≤ 10
  depth_le : depth ≤ 25
  deriving DecidableEq, Repr

namespace Configuration

def maxRadius : Nat := 10

def maxDepth : Nat := 25

/-- The ruleset with the given values. The radius is looked at first, then the depth, the survival
interval and the birth interval. -/
def create (radius depth : Nat) (aging : Bool) (survival birth : UInt16 × UInt16)
    (shape : Shape) : Except Fault Configuration :=
  if hr : 1 ≤ radius ∧ radius ≤ maxRadius then
    if hd : depth ≤ maxDepth then do
      let survival ← Interval.create (.field .survivalInterval) survival.1 survival.2
      let birth ← Interval.create (.field .birthInterval) birth.1 birth.2
      return ⟨radius, depth, aging, survival, birth, shape, hr.1, hr.2, hd⟩
    else .error (.invalid (.field .decayStates) (.outside 0 maxDepth depth))
  else .error (.invalid (.field .radius) (.outside 1 maxRadius radius))

/-- Does a live cell that fails to survive decay, instead of dying at once? -/
def ages (c : Configuration) : Bool := c.aging && 2 ≤ c.depth

/-- The greatest state that a cell may be put into. -/
def maxState (c : Configuration) : Nat := max c.depth 1

/-- The number of neighbours of a cell far from every edge. -/
def neighbourCount (c : Configuration) : Nat := c.shape.neighbourCount c.radius

def offsets (c : Configuration) : List Offset := c.shape.offsets c.radius

/-- The next state of a cell in state `state` with `live` live neighbours. -/
def transition (c : Configuration) (state : Cell) (live : Nat) : Cell :=
  match state with
  | 0 => if c.birth.contains live then .alive else .dead
  | 1 => if c.survival.contains live then .alive else if c.ages then .firstDecay else .dead
  | s + 2 => if c.depth ≤ s + 2 then .dead else s + 3

theorem create_fields (c : Configuration) :
    create c.radius c.depth c.aging c.survival.ends c.birth.ends c.shape = .ok c := by
  simp only [create, maxRadius, maxDepth, c.radius_pos, c.radius_le, c.depth_le, and_self,
    Interval.create_ends]
  rfl

end Configuration

end LargerThanLife
