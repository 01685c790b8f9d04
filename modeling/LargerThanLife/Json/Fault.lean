import LargerThanLife.Json.Key
import LargerThanLife.Json.Malformation
import LargerThanLife.Number.Shortest

/-! What can be wrong with a JSON text. Either the text is malformed, or it is well formed as far as
it was read and holds the wrong data. A mismatch is a cause with the values that gave rise to it,
and its wording is a function of the cause. -/

namespace LargerThanLife.Json

open Text Numeral Number

/-- A kind of value that a reader can ask for. -/
inductive Expected where
  | integer
  | pair
  | text
  | record
  /-- a record in array form -/
  | sixValues
  deriving DecidableEq, Repr

def Expected.message : Expected → String
  | integer => "i64"
  | pair => "an array of length 2"
  | text => "a string"
  | record => "struct ConfigRecord"
  | sixValues => "struct ConfigRecord with 6 elements"

/-- A value that was found where another kind was expected. Sequences and maps are not entered. -/
inductive Found where
  | null
  | boolean (b : Bool)
  | integer (n : Int)
  | real (x : Binary64)
  | text (s : String)
  | sequence
  | map
  deriving DecidableEq, Repr

/-- Powers of ten from -5 to 15 are written without an exponent, and an exponent is never filled
up. -/
def realLayout : Layout := ⟨-5, 15, 1⟩

def Found.message : Found → String
  | null => "null"
  | boolean true => "boolean `true`"
  | boolean false => "boolean `false`"
  | integer n => "integer `" ++ intText n ++ "`"
  | real x => "floating point `" ++ String.ofList (realLayout.write x) ++ "`"
  | text s => "string " ++ quoted s
  | sequence => "sequence"
  | map => "map"

/-- Data of the wrong form. -/
inductive Mismatch where
  | wrongType (found : Found) (expected : Expected)
  /-- an integer too great for 64 bits with a sign -/
  | wrongInteger (n : Int)
  | wrongLength (got : Nat) (expected : Expected)
  | unknownKey (key : String)
  | duplicate (field : Field)
  | missing (field : Field)
  /-- a well-formed value that is refused for what it says -/
  | refused (fault : LargerThanLife.Fault)
  deriving DecidableEq, Repr

def backquoted (s : String) : String := "`" ++ s ++ "`"

/-- All keys, for the message about an unknown one. -/
def keyList : String := ", ".intercalate (Field.all.map fun f => backquoted (key f))

def Mismatch.message : Mismatch → String
  | wrongType found expected =>
    "invalid type: " ++ found.message ++ ", expected " ++ expected.message
  | wrongInteger n =>
    "invalid value: " ++ (Found.integer n).message ++ ", expected " ++ Expected.integer.message
  | wrongLength got expected =>
    "invalid length " ++ text got ++ ", expected " ++ expected.message
  | unknownKey other => "unknown field " ++ backquoted other ++ ", expected one of " ++ keyList
  | duplicate field => "duplicate field " ++ backquoted (key field)
  | missing field => "missing field " ++ backquoted (key field)
  | refused fault => fault.message

/-- Why a JSON text is not accepted. -/
inductive Fault where
  | malformed (why : Malformation)
  | mismatch (m : Mismatch)
  deriving DecidableEq, Repr

end LargerThanLife.Json
