import LargerThanLife.Board.Basic
import LargerThanLife.Random.Ruleset
import LargerThanLife.Record

/-! Draws without a given seed. The seeds then come from a supply, about which nothing may be
assumed; so the only questions here are those whose answer is the same for every seed: that a random
ruleset survives being stored, that a generator can be made again from its seed, and that a random
board holds dead and live cells only. -/

namespace LargerThanLife

open LargerThanLife.Random

structure SeedSupply where
  state : UInt64

namespace SeedSupply

def next (supply : SeedSupply) : UInt64 × SeedSupply :=
  let state := Key.advance supply.state
  (state, ⟨state⟩)

def take : Nat → SeedSupply → List UInt64
  | 0, _ => []
  | count + 1, supply =>
    let (seed, supply) := supply.next
    seed :: take count supply

end SeedSupply

/-- Does the ruleset come back from its stored form? -/
def Configuration.isRestored (c : Configuration) : Bool :=
  match (Record.ofConfiguration c).validate with
  | .ok stored => stored = c
  | .error _ => false

def Configuration.survivesStorage (seed : UInt64) : Bool := (ofSeed seed).all isRestored

def Generator.numbers : Nat → Generator → List UInt64
  | 0, _ => []
  | count + 1, g =>
    let (x, g) := g.next64
    x :: numbers count g

/-- Does a generator give the same numbers again when it is made from its seed? -/
def Generator.replays (count : Nat) (seed : UInt64) : Bool :=
  let g := ofSeed seed
  g.numbers count = (ofSeed g.seed).numbers count

/-- Is every cell dead or fully alive? -/
def Board.isBinary (b : Board) : Bool := b.cells.all (· ≤ Cell.alive)

end LargerThanLife
