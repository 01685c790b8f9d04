import LargerThanLife.Board.Operation
import LargerThanLife.Random.Unseeded
import LargerThanLife.Script.Term

/-! The state of a script: its variables, its boards, whether a log filter is installed and the
seeds that are still to be used. Boards live here and are changed here, so that every value that
names a board sees the change. -/

namespace LargerThanLife.Script

structure Session where
  known : Variables
  boards : Array Board
  /-- Has a log filter been installed? -/
  logging : Bool
  seeds : SeedSupply
  /-- What the buffers of new boards are taken from. -/
  memory : Memory

def Session.start : Session := ⟨[], #[], false, ⟨0⟩, .usual⟩

/-- A computation of a step; when it fails, the session stays as it was. -/
abbrev Run (α : Type) := StateT Session (Except Failure) α

def showBoard (boards : Array Board) (number : Nat) : String :=
  match boards[number]? with
  | none => ""
  | some b =>
    "Board(" ++ Text.Numeral.text b.width ++ "x" ++ Text.Numeral.text b.height ++
      ", generation=" ++ Text.Numeral.text b.generation ++
      ", rules=" ++ b.configuration.rulestring ++ ")"

def nextSeed : Run UInt64 := do
  let s ← get
  let (seed, seeds) := s.seeds.next
  set { s with seeds }
  return seed

/-- A seed that was given, or the next one of the session. -/
def seedOr : Option UInt64 → Run UInt64
  | some seed => return seed
  | none => nextSeed

end LargerThanLife.Script
