import LargerThanLife.Number.Binary64
import LargerThanLife.Random.Generator

/-! Coins. A chance between 0 and 1 is a threshold on numbers of 64 bits: a coin falls true when the
number drawn is below it. The certain chance draws nothing. -/

namespace LargerThanLife

open Number

inductive Chance where
  /-- true without a draw -/
  | certain
  /-- true for numbers below the threshold -/
  | below (threshold : Nat)
  deriving DecidableEq, Repr

namespace Chance

def half : Chance := below (1 <<< 63)

/-- The chance that a floating-point number stands for, rounded down to a multiple of `2 ^ -64`;
there is none outside the closed interval from 0 to 1. Both zeros are in it. -/
def ofBinary64? (x : Binary64) : Option Chance :=
  let m := x.magnitude
  if m.significand = 0 then some (below 0)
  else if x.negative || m.den < m.num then none
  else if m.num = m.den then some certain
  else some (below (m.num <<< 64 / m.den))

end Chance

def toss (chance : Chance) (g : Generator) : Bool × Generator :=
  match chance with
  | .certain => (true, g)
  | .below threshold =>
    let (x, g) := g.next64
    (x.toNat < threshold, g)

end LargerThanLife
