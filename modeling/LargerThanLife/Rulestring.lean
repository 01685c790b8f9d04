import LargerThanLife.Configuration
import LargerThanLife.Text.Blank
import LargerThanLife.Text.Pieces

/-! Rulestrings, the one-line form of a ruleset, such as `R1,C0,M0,S2..3,B3..3,NM`: the radius, the
decay depth, the aging flag, the survival and birth intervals, each after its letter, and the code
of the shape. `write` gives the form without blanks, plus signs or leading zeros; `parse` also
accepts those. -/

namespace LargerThanLife.Rulestring

open Text

def parts (c : Configuration) : List (List Char) :=
  ['R' :: Numeral.write c.radius,
    'C' :: Numeral.write c.depth,
    'M' :: Numeral.write c.aging.toNat,
    'S' :: c.survival.write,
    'B' :: c.birth.write,
    c.shape.code.toList]

def write (c : Configuration) : List Char := join ',' (parts c)

/-- The rest of a part after its letter. -/
def untag (tag : Char) (field : Field) (token : List Char) : Except Fault (List Char) :=
  match token with
  | [] => .error (.invalid (.field field) (.missingTag tag ""))
  | c :: rest =>
    if c = tag then .ok rest
    else .error (.invalid (.field field) (.missingTag tag (String.ofList (c :: rest))))

/-- The number after the letter of a part. -/
def number (tag : Char) (field : Field) (limit : Nat) (token : List Char) : Except Fault Nat := do
  let value ← untag tag field token
  match Numeral.readUpTo limit value with
  | some n => return n
  | none => throw (.invalid (.field field) (.notNumber (String.ofList value)))

/-- One end of a range. -/
def count (field : Field) (value : List Char) : Except Fault UInt16 :=
  match Numeral.readUpTo 65535 value with
  | some n => .ok (UInt16.ofNat n)
  | none => .error (.invalid (.field field) (.notCount (String.ofList value)))

/-- The range after the letter of a part; its lower end is read first. -/
def range (tag : Char) (field : Field) (token : List Char) :
    Except Fault (UInt16 × UInt16) := do
  let body ← untag tag field token
  match cutAtDots body with
  | none => throw (.invalid (.field field) (.notRange (String.ofList body)))
  | some (low, high) => return (← count field low, ← count field high)

def flag (n : Nat) : Except Fault Bool :=
  match n with
  | 0 => .ok false
  | 1 => .ok true
  | n => .error (.invalid (.field .agingEnabled) (.notFlag n))

/-- The ruleset that six parts without blanks at their ends stand for. The parts are read in
order, and only then are the values checked against each other. -/
def ofParts (radius depth aging survival birth code : List Char) :
    Except Fault Configuration := do
  let radius ← number 'R' .radius 255 radius
  let depth ← number 'C' .decayStates 255 depth
  let aging ← flag (← number 'M' .agingEnabled 255 aging)
  let survival ← range 'S' .survivalInterval survival
  let birth ← range 'B' .birthInterval birth
  let shape ← Shape.ofCode (String.ofList code)
  Configuration.create radius depth aging survival birth shape

def parse (s : List Char) : Except Fault Configuration :=
  match (pieces ',' s).map trim with
  | [radius, depth, aging, survival, birth, code] =>
    ofParts radius depth aging survival birth code
  | other => .error (.invalid .rulestring (.partCount other.length))

end LargerThanLife.Rulestring

namespace LargerThanLife.Configuration

def rulestring (c : Configuration) : String := String.ofList (Rulestring.write c)

def ofRulestring (s : String) : Except Fault Configuration := Rulestring.parse s.toList

end LargerThanLife.Configuration
