import LargerThanLife.Json.Reader
import LargerThanLife.Record

/-! Stored rulesets as JSON. A record is written as an object with the six fields in order and no
blanks. It is read from an object with the fields in any order, each exactly once and no others, or
from an array of the six values in order. A ruleset is read as a record that is then judged, before
the text after it is looked at. -/

namespace LargerThanLife.Json

/-! ### Writing -/

def writeInteger (n : Int64) : List Char := Text.Numeral.writeInt n.toInt

def writePair (p : Int64 × Int64) : List Char :=
  '[' :: writeInteger p.1 ++ ',' :: writeInteger p.2 ++ [']']

def writeField (r : Record) : Field → List Char
  | .radius => writeInteger r.radius
  | .decayStates => writeInteger r.decayStates
  | .agingEnabled => writeInteger r.agingEnabled
  | .survivalInterval => writePair r.survivalInterval
  | .birthInterval => writePair r.birthInterval
  | .neighbourhoodCode => quote r.neighbourhoodCode.toList

def writeMember (name : String) (value : List Char) : List Char :=
  quote name.toList ++ ':' :: value

def commaSeparated : List (List Char) → List Char
  | [] => []
  | [t] => t
  | t :: u :: rest => t ++ ',' :: commaSeparated (u :: rest)

/-- A record, without blanks. -/
def writeRecord (r : Record) : List Char :=
  '{' :: commaSeparated (Field.all.map fun f => writeMember (key f) (writeField r f)) ++ ['}']

/-! ### Reading -/

/-- The fields of a record that have been read so far. -/
structure Draft where
  radius : Option Int64
  decayStates : Option Int64
  agingEnabled : Option Int64
  survivalInterval : Option (Int64 × Int64)
  birthInterval : Option (Int64 × Int64)
  neighbourhoodCode : Option String
  deriving DecidableEq, Repr

namespace Draft

def empty : Draft := ⟨none, none, none, none, none, none⟩

def has (d : Draft) : Field → Bool
  | .radius => d.radius.isSome
  | .decayStates => d.decayStates.isSome
  | .agingEnabled => d.agingEnabled.isSome
  | .survivalInterval => d.survivalInterval.isSome
  | .birthInterval => d.birthInterval.isSome
  | .neighbourhoodCode => d.neighbourhoodCode.isSome

/-- The value of a field, which must have been read. -/
def get {α : Type} (field : Field) (value : Option α) : Except Fault α :=
  match value with
  | some a => .ok a
  | none => .error (.mismatch (.missing field))

/-- The record, if all fields have been read; otherwise the first one in order is missing. -/
def toRecord (d : Draft) : Except Fault Record := do
  return {
    radius := ← get .radius d.radius
    decayStates := ← get .decayStates d.decayStates
    agingEnabled := ← get .agingEnabled d.agingEnabled
    survivalInterval := ← get .survivalInterval d.survivalInterval
    birthInterval := ← get .birthInterval d.birthInterval
    neighbourhoodCode := ← get .neighbourhoodCode d.neighbourhoodCode }

end Draft

def readField (field : Field) (d : Draft) : Reader Draft := fun s =>
  match field with
  | .radius => do
    let (n, rest) ← readInteger s
    return ({ d with radius := some n }, rest)
  | .decayStates => do
    let (n, rest) ← readInteger s
    return ({ d with decayStates := some n }, rest)
  | .agingEnabled => do
    let (n, rest) ← readInteger s
    return ({ d with agingEnabled := some n }, rest)
  | .survivalInterval => do
    let (p, rest) ← readPair s
    return ({ d with survivalInterval := some p }, rest)
  | .birthInterval => do
    let (p, rest) ← readPair s
    return ({ d with birthInterval := some p }, rest)
  | .neighbourhoodCode => do
    let (code, rest) ← readText s
    return ({ d with neighbourhoodCode := some code }, rest)

/-- Reads a member of an object, from after the opening quote of its key. The key is judged before
the colon is looked for. -/
def readMember (d : Draft) : Reader Draft := fun s =>
  match readString s with
  | .error why => .error (.malformed why)
  | .ok (name, rest) =>
    match ofKey? (String.ofList name) with
    | none => .error (.mismatch (.unknownKey (String.ofList name)))
    | some field =>
      if d.has field then .error (.mismatch (.duplicate field))
      else match skipBlank rest with
        | ':' :: rest => readField field d rest
        | [] => .error (.malformed .endOfText)
        | _ => .error (.malformed (.expected .colon))

/-- Reads the members of an object from after the opening quote of a key to the closing brace, at
most `count` of them. -/
def readMembers : Nat → Draft → Reader Draft
  | 0, _, _ => .error (.malformed .trailingCharacters)
  | count + 1, d, s => do
    let (d, rest) ← readMember d s
    match skipBlank rest with
    | '}' :: rest => return (d, rest)
    | ',' :: rest =>
      match skipBlank rest with
      | '"' :: rest => readMembers count d rest
      | '}' :: _ => throw (.malformed .trailingComma)
      | [] => throw (.malformed .endOfText)
      | _ => throw (.malformed (.expected .key))
    | [] => throw (.malformed .endOfText)
    | _ => throw (.malformed (.expected .objectEnd))

/-- Reads an object from after its opening brace. Of seven members one repeats another or is
unknown, so an eighth is never looked for. -/
def readObject : Reader Draft := fun s =>
  match skipBlank s with
  | '}' :: rest => .ok (Draft.empty, rest)
  | '"' :: rest => readMembers (Field.all.length + 1) Draft.empty rest
  | [] => .error (.malformed .endOfText)
  | _ => .error (.malformed (.expected .key))

/-- Reads the values of the given fields from an array, after `index` others, and its closing
bracket. -/
def readElements : List Field → Nat → Draft → Reader Draft
  | [], _, d, s => do
    let rest ← closeArray s
    return (d, rest)
  | field :: fields, index, d, s => do
    let s ← nextElement index .sixValues s
    let (d, rest) ← readField field d s
    readElements fields (index + 1) d rest

/-- Reads a record in either form. -/
def readRecord : Reader Record := fun s =>
  match skipBlank s with
  | '{' :: rest => do
    let (d, rest) ← readObject rest
    return (← d.toRecord, rest)
  | '[' :: rest => do
    let (d, rest) ← readElements Field.all 0 Draft.empty rest
    return (← d.toRecord, rest)
  | s => .error (mismatch .record s)

def judged {α : Type} (outcome : Except LargerThanLife.Fault α) : Except Fault α :=
  match outcome with
  | .ok a => .ok a
  | .error fault => .error (.mismatch (.refused fault))

def readConfiguration : Reader Configuration := fun s => do
  let (r, rest) ← readRecord s
  return (← judged r.validate, rest)

def readShape : Reader Shape := fun s => do
  let (code, rest) ← readText s
  return (← judged (Shape.ofCode code), rest)

end LargerThanLife.Json

namespace LargerThanLife

def Record.json (r : Record) : String := String.ofList (Json.writeRecord r)

def Record.ofJson (s : String) : Except Json.Fault Record := Json.readAll Json.readRecord s.toList

def Configuration.json (c : Configuration) : String := (Record.ofConfiguration c).json

def Configuration.ofJson (s : String) : Except Json.Fault Configuration :=
  Json.readAll Json.readConfiguration s.toList

def Shape.json (shape : Shape) : String := String.ofList (Json.quote shape.code.toList)

def Shape.ofJson (s : String) : Except Json.Fault Shape := Json.readAll Json.readShape s.toList

end LargerThanLife
