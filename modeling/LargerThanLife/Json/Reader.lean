import LargerThanLife.Json.Fault
import LargerThanLife.Json.Numeral
import LargerThanLife.Json.Quote

/-! Reading single values from JSON text. A reader takes the text from where it stands and gives a
value and the text after it, or the first fault in text order. A number or string of the wrong kind
is read to its end before it is refused; an array or object of the wrong kind is refused at its
opening bracket. -/

namespace LargerThanLife.Json

/-- Reads a value from the front of a text and gives what follows it. -/
abbrev Reader (α : Type) := List Char → Except Fault (α × List Char)

def isBlank (c : Char) : Bool := c = ' ' || c = '\t' || c = '\n' || c = '\r'

def skipBlank (s : List Char) : List Char := s.dropWhile isBlank

/-- A value whose literal has the given rest. -/
def readLiteral (value : Found) : List Char → List Char → Except Malformation Found
  | [], _ => .ok value
  | _ :: _, [] => .error .endOfText
  | c :: word, d :: rest =>
    if c = d then readLiteral value word rest else .error (.expected .literal)

def NumberValue.found : NumberValue → Found
  | integer n => .integer n
  | real x => .real x

/-- The value at the front of a text, as far as a message names it. -/
def found : List Char → Except Malformation Found
  | [] => .error .endOfText
  | c :: rest =>
    if c = '"' then (fun (s, _) => .text (String.ofList s)) <$> readString rest
    else if c = '[' then .ok .sequence
    else if c = '{' then .ok .map
    else if c = 'n' then readLiteral .null "ull".toList rest
    else if c = 't' then readLiteral (.boolean true) "rue".toList rest
    else if c = 'f' then readLiteral (.boolean false) "alse".toList rest
    else if c = '-' || c.isDigit then
      (fun (value, _) => value.found) <$> readNumber (c :: rest)
    else .error (.expected .value)

/-- The fault of a text whose first value is not of the expected kind. -/
def mismatch (expected : Expected) (s : List Char) : Fault :=
  match found s with
  | .ok found => .mismatch (.wrongType found expected)
  | .error why => .malformed why

def readInteger : Reader Int64 := fun s =>
  let s := skipBlank s
  match readNumber s with
  | .ok (.integer n, rest) =>
    if n < 1 <<< 63 then .ok (Int64.ofInt n, rest) else .error (.mismatch (.wrongInteger n))
  | _ => .error (mismatch .integer s)

def readText : Reader String := fun s =>
  match skipBlank s with
  | '"' :: rest =>
    match readString rest with
    | .ok (s, rest) => .ok (String.ofList s, rest)
    | .error why => .error (.malformed why)
  | s => .error (mismatch .text s)

/-- Goes to the next element of an array, which is the one after `index` others; the array is
expected to have one. -/
def nextElement (index : Nat) (expected : Expected) (s : List Char) :
    Except Fault (List Char) :=
  match skipBlank s with
  | [] => .error (.malformed .endOfText)
  | c :: rest =>
    if c = ']' then .error (.mismatch (.wrongLength index expected))
    else if index = 0 then .ok (c :: rest)
    else if c = ',' then
      match skipBlank rest with
      | [] => .error (.malformed .endOfText)
      | d :: rest => if d = ']' then .error (.malformed .trailingComma) else .ok (d :: rest)
    else .error (.malformed (.expected .listEnd))

/-- Leaves an array after its last element. -/
def closeArray (s : List Char) : Except Fault (List Char) :=
  match skipBlank s with
  | [] => .error (.malformed .endOfText)
  | c :: rest =>
    if c = ']' then .ok rest
    else if c = ',' ∧ (skipBlank rest).head? = some ']' then .error (.malformed .trailingComma)
    else .error (.malformed .trailingCharacters)

def readPair : Reader (Int64 × Int64) := fun s =>
  match skipBlank s with
  | '[' :: rest => do
    let rest ← nextElement 0 .pair rest
    let (first, rest) ← readInteger rest
    let rest ← nextElement 1 .pair rest
    let (second, rest) ← readInteger rest
    let rest ← closeArray rest
    return ((first, second), rest)
  | s => .error (mismatch .pair s)

/-- Reads a text that holds one value and nothing after it but blanks. -/
def readAll {α : Type} (reader : Reader α) (s : List Char) : Except Fault α := do
  let (a, rest) ← reader s
  if skipBlank rest = [] then return a else throw (.malformed .trailingCharacters)

end LargerThanLife.Json
