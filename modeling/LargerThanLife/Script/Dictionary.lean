import LargerThanLife.Record
import LargerThanLife.Script.Argument

/-! Stored rulesets as dictionaries of a script. The keys are judged first, by their text, and all
unknown ones are named together; then each field is looked up and converted, in the order of the
record. -/

namespace LargerThanLife.Script

def pairValue (p : Int64 × Int64) : Value := .list [.integer p.1.toInt, .integer p.2.toInt]

def ofRecord (r : Record) : List (Value × Value) :=
  [(.text "radius", .integer r.radius.toInt),
    (.text "decayStates", .integer r.decayStates.toInt),
    (.text "agingEnabled", .integer r.agingEnabled.toInt),
    (.text "survivalInterval", pairValue r.survivalInterval),
    (.text "birthInterval", pairValue r.birthInterval),
    (.text "neighbourhoodCode", .text r.neighbourhoodCode)]

/-- The value under a key, converted. -/
def fieldValue {α : Type} (entries : List (Value × Value)) (key : String)
    (convert : Value → Except Failure α) : Except Failure α :=
  match Value.lookup (.text key) entries with
  | some v => convert v
  | none => .error (.missingKey key)

def toRecord (showBoard : Nat → String) (entries : List (Value × Value)) :
    Except Failure Record := do
  let keys := entries.map fun entry => entry.1.asText showBoard
  match Record.unknownKeys keys with
  | [] =>
    return {
      radius := ← fieldValue entries "radius" toInt64
      decayStates := ← fieldValue entries "decayStates" toInt64
      agingEnabled := ← fieldValue entries "agingEnabled" toInt64
      survivalInterval := ← fieldValue entries "survivalInterval" toPair
      birthInterval := ← fieldValue entries "birthInterval" toPair
      neighbourhoodCode := ← fieldValue entries "neighbourhoodCode" toText }
  | unknown => throw (.badValue ("unknown field(s): " ++ Value.commaList unknown))

def ofDictionary (showBoard : Nat → String) (entries : List (Value × Value)) :
    Except Failure Configuration := do
  let r ← toRecord showBoard entries
  lift r.validate

def toDictionary (c : Configuration) : List (Value × Value) :=
  ofRecord (Record.ofConfiguration c)

end LargerThanLife.Script
