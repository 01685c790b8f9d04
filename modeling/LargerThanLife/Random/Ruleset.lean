import LargerThanLife.Configuration
import LargerThanLife.Random.Coin
import LargerThanLife.Random.Integer

/-! Random rulesets. Every field is drawn uniformly from its domain, in a fixed order: radius,
depth, aging, survival, birth, shape. The lower end of an interval comes from all counts and the
upper end from those not below it. -/

namespace LargerThanLife

open LargerThanLife.Random

def drawBool (chance : Chance) : Draw Bool := fun g => some (toss chance g)

def drawByte (low high : Nat) (ordered : low ≤ high) (fits : high ≤ 255) :
    Draw { v : Nat // low ≤ v ∧ v ≤ high } := do
  let v ← drawBetween .byte low high (by omega)
    (by rw [IntKind.min_byte]; omega) (by rw [IntKind.max_byte]; omega)
  return ⟨v.val.toNat, by have := v.property; omega⟩

def drawCount (low : UInt16) : Draw { v : UInt16 // low ≤ v } := do
  let v ← drawBetween .count low.toNat 65535
    (by have := low.toNat_lt; omega)
    (by rw [IntKind.min_count]; omega) (Int.le_of_eq IntKind.max_count.symm)
  return ⟨UInt16.ofNat v.val.toNat, by
    have := v.property
    rw [UInt16.le_iff_toNat_le, UInt16.toNat_ofNat']
    omega⟩

namespace Interval

def draw : Draw Interval := do
  let min ← drawCount 0
  let max ← drawCount min.val
  return ⟨min.val, max.val, max.property⟩

end Interval

namespace Shape

/-- Draws a shape with a fair coin. -/
def draw : Draw Shape := do
  return if ← drawBool .half then moore else vonNeumann

end Shape

namespace Configuration

def draw : Draw Configuration := do
  let radius ← drawByte 1 maxRadius (by decide) (by decide)
  let depth ← drawByte 0 maxDepth (by decide) (by decide)
  let aging ← drawBool .half
  let survival ← Interval.draw
  let birth ← Interval.draw
  let shape ← Shape.draw
  return ⟨radius.val, depth.val, aging, survival, birth, shape,
    radius.property.1, radius.property.2, depth.property.2⟩

/-- The random ruleset of a seed; none if its draws never come to an end. -/
def ofSeed (seed : UInt64) : Option Configuration :=
  (draw (Generator.ofSeed seed)).map Prod.fst

end Configuration

end LargerThanLife
