import LargerThanLife.Text.Numeral
import LargerThanLife.Text.Quoted

/-! Everything that can be wrong with a ruleset, a board or a request to it. A fault is a cause
with the values that gave rise to it; its wording is a function of the cause, so two faults can be
compared without comparing texts. -/

namespace LargerThanLife

open Text Numeral

/-- The six named fields of a stored ruleset, in their order. -/
inductive Field where
  | radius | decayStates | agingEnabled | survivalInterval | birthInterval | neighbourhoodCode
  deriving DecidableEq, Repr

namespace Field

def all : List Field :=
  [radius, decayStates, agingEnabled, survivalInterval, birthInterval, neighbourhoodCode]

/-- The name of a field in a message. -/
def name : Field → String
  | radius => "radius"
  | decayStates => "decayStates"
  | agingEnabled => "agingEnabled"
  | survivalInterval => "survivalInterval"
  | birthInterval => "birthInterval"
  | neighbourhoodCode => "neighbourhoodCode"

@[simp] theorem mem_all (f : Field) : f ∈ all := by cases f <;> decide

theorem name_injective {f g : Field} (h : f.name = g.name) : f = g := by
  revert h; cases f <;> cases g <;> decide

end Field

/-- What a fault is about. -/
inductive Subject where
  | field (f : Field)
  | interval
  | rulestring
  | width
  | height
  deriving DecidableEq, Repr

def Subject.name : Subject → String
  | field f => f.name
  | interval => "interval"
  | rulestring => "rulestring"
  | width => "width"
  | height => "height"

/-- Why a value is refused. -/
inductive Reason where
  /-- a number outside a closed range -/
  | outside (low high got : Nat)
  /-- a flag that is neither 0 nor 1 -/
  | notFlag (got : Int)
  /-- an interval whose ends are in the wrong order -/
  | reversed (min max : Nat)
  /-- a stored integer that does not fit the width of its field -/
  | tooWide (got : Int)
  /-- a board side of length zero -/
  | notPositive
  /-- a board with too many cells -/
  | tooLarge (width height : Nat)
  /-- a rulestring without exactly six parts -/
  | partCount (got : Nat)
  /-- a part of a rulestring without its letter -/
  | missingTag (tag : Char) (token : String)
  /-- a part of a rulestring that is no number -/
  | notNumber (value : String)
  /-- a part of a rulestring that is no range -/
  | notRange (body : String)
  /-- an end of a range that is no count -/
  | notCount (value : String)
  deriving DecidableEq, Repr

def Reason.message : Reason → String
  | outside low high got =>
    "must be in " ++ text low ++ "..=" ++ text high ++ ", got " ++ text got
  | notFlag got => "must be 0 or 1, got " ++ intText got
  | reversed min max => "min " ++ text min ++ " is greater than max " ++ text max
  | tooWide got => intText got ++ " is out of range"
  | notPositive => "must be positive"
  | tooLarge width height => text width ++ "x" ++ text height ++ " board is too large"
  | partCount got => "expected 6 comma-separated fields, got " ++ text got
  | missingTag tag token => "expected " ++ tag.toString ++ "<value>, got " ++ quoted token
  | notNumber value => "not a valid number: " ++ quoted value
  | notRange body => "expected min..max, got " ++ quoted body
  | notCount value => "not a valid count: " ++ quoted value

/-- Why an operation is refused. -/
inductive Fault where
  /-- a value that its subject does not admit -/
  | invalid (subject : Subject) (reason : Reason)
  /-- a neighbourhood code that names no shape -/
  | unknownCode (code : String)
  /-- a coordinate off the board -/
  | outOfBounds (x y width height : Nat)
  /-- a cell state that the ruleset does not have -/
  | invalidState (state max : Nat)
  deriving DecidableEq, Repr

def Fault.message : Fault → String
  | invalid subject reason => "invalid " ++ subject.name ++ ": " ++ reason.message
  | unknownCode code =>
    "unknown neighbourhood code " ++ quoted code ++ ", expected \"NM\" or \"NN\""
  | outOfBounds x y width height =>
    "cell (" ++ text x ++ ", " ++ text y ++ ") is outside the " ++ text width ++ "x" ++
      text height ++ " board"
  | invalidState state max => "cell state " ++ text state ++ " is outside 0..=" ++ text max

end LargerThanLife
