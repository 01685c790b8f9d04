import LargerThanLife.Random.KeyStream

/-! Random numbers from a seed. A generator is a seed and a position in the key stream of that
seed; drawing a word moves the position on by one or two places and changes nothing else. A `Draw`
is a computation that may draw any number of words, and may also never come to an end, which the
value `none` stands for. -/

namespace LargerThanLife

open LargerThanLife.Random

/-- A source of random numbers. -/
structure Generator where
  seed : UInt64
  /-- The number of words drawn so far. -/
  position : Nat
  deriving DecidableEq, Repr

namespace Generator

/-- The generator of a seed, before any draw. -/
def ofSeed (seed : UInt64) : Generator := ⟨seed, 0⟩

/-- The word at a place after the current position. -/
def peek (g : Generator) (ahead : Nat) : UInt32 := (Key.ofSeed g.seed).word (g.position + ahead)

def skip (g : Generator) (count : Nat) : Generator := { g with position := g.position + count }

def next32 (g : Generator) : UInt32 × Generator := (g.peek 0, g.skip 1)

/-- Draws two words as one number, the first one as its lower half. -/
def next64 (g : Generator) : UInt64 × Generator :=
  ((g.peek 0).toUInt64 ||| (g.peek 1).toUInt64 <<< 32, g.skip 2)

@[simp] theorem skip_skip (g : Generator) (m n : Nat) : (g.skip m).skip n = g.skip (m + n) := by
  simp [skip, Nat.add_assoc]

@[simp] theorem peek_skip (g : Generator) (m n : Nat) : (g.skip m).peek n = g.peek (m + n) := by
  simp [peek, skip, Nat.add_assoc]

end Generator

/-- A computation that draws from a generator; `none` when its draws never come to an end. -/
abbrev Draw (α : Type) := StateT Generator Option α

end LargerThanLife
