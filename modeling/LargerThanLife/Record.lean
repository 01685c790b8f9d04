import LargerThanLife.Configuration

/-! The stored form of a ruleset: six named fields holding plain 64-bit integers and a text, so that
any stored value can be read back before it is judged. `validate` judges a record, field by field in
order, and `ofConfiguration` is its inverse. -/

namespace LargerThanLife

/-- A stored ruleset, which may be invalid. -/
structure Record where
  radius : Int64
  decayStates : Int64
  agingEnabled : Int64
  survivalInterval : Int64 × Int64
  birthInterval : Int64 × Int64
  neighbourhoodCode : String
  deriving DecidableEq, Repr

namespace Record

/-- The names of the fields as they are stored. -/
def fieldNames : List String :=
  ["radius", "decayStates", "agingEnabled", "survivalInterval", "birthInterval", "neighbourhoodCode"]

theorem fieldNames_eq : fieldNames = Field.all.map Field.name := rfl

/-- The keys that name no field, in the given order and with repetitions. -/
def unknownKeys (keys : List String) : List String := keys.filter fun key => !fieldNames.contains key

/-- The value of a stored integer, if it lies between 0 and `limit`. -/
def narrow (field : Field) (limit : Nat) (n : Int64) : Except Fault Nat :=
  if 0 ≤ n.toInt ∧ n.toInt ≤ limit then .ok n.toInt.toNat
  else .error (.invalid (.field field) (.tooWide n.toInt))

/-- The ends of a stored interval as counts; the lower end is looked at first. -/
def narrowEnds (field : Field) (ends : Int64 × Int64) : Except Fault (UInt16 × UInt16) := do
  let min ← narrow field 65535 ends.1
  let max ← narrow field 65535 ends.2
  return (UInt16.ofNat min, UInt16.ofNat max)

def flag (n : Int64) : Except Fault Bool :=
  if n.toInt = 0 then .ok false
  else if n.toInt = 1 then .ok true
  else .error (.invalid (.field .agingEnabled) (.notFlag n.toInt))

def validate (r : Record) : Except Fault Configuration := do
  let radius ← narrow .radius 255 r.radius
  let depth ← narrow .decayStates 255 r.decayStates
  let aging ← flag r.agingEnabled
  let survival ← narrowEnds .survivalInterval r.survivalInterval
  let birth ← narrowEnds .birthInterval r.birthInterval
  let shape ← Shape.ofCode r.neighbourhoodCode
  Configuration.create radius depth aging survival birth shape

def ofEnds (i : Interval) : Int64 × Int64 :=
  (Int64.ofNat i.min.toNat, Int64.ofNat i.max.toNat)

def ofConfiguration (c : Configuration) : Record where
  radius := Int64.ofNat c.radius
  decayStates := Int64.ofNat c.depth
  agingEnabled := Int64.ofNat c.aging.toNat
  survivalInterval := ofEnds c.survival
  birthInterval := ofEnds c.birth
  neighbourhoodCode := c.shape.code

end Record

end LargerThanLife
