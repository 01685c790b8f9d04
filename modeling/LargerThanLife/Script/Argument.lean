import LargerThanLife.Script.Value

/-! Arguments of a call. Values are first matched with the parameters, by position and by name, and
then converted to what the parameters ask for, from left to right. A truth value passes for an
integer; no other value does. -/

namespace LargerThanLife.Script

/-- Why a step of a script fails. -/
inductive Failure where
  /-- a value of the wrong kind, or arguments that do not match the parameters -/
  | wrongKind
  /-- a code that names no shape -/
  | badCode (message : String)
  /-- a value that is not admitted -/
  | badValue (message : String)
  /-- a coordinate off the board -/
  | badIndex (message : String)
  | missingKey (key : String)
  /-- an integer too wide for its parameter -/
  | overflow
  | noAttribute
  | unknownName
  /-- the call was given up without an answer -/
  | abandoned
  deriving DecidableEq, Repr

def Failure.ofFault (fault : Fault) : Failure :=
  match fault with
  | .unknownCode _ => badCode fault.message
  | .outOfBounds .. => badIndex fault.message
  | .invalid .. | .invalidState .. => badValue fault.message

def lift {α : Type} : Except Fault α → Except Failure α
  | .ok a => .ok a
  | .error fault => .error (.ofFault fault)

/-! ### Matching -/

structure Parameter where
  name : String
  required : Bool

def needed (name : String) : Parameter := ⟨name, true⟩

def optional (name : String) : Parameter := ⟨name, false⟩

/-- The values of the parameters in order; values that are left over, a value given twice and a
missing one are failures. -/
def matchArguments :
    List Parameter → List Value → List (String × Value) → Except Failure (List (Option Value))
  | [], [], [] => .ok []
  | [], _, _ => .error .wrongKind
  | p :: ps, v :: vs, named =>
    if (named.lookup p.name).isSome then .error .wrongKind
    else return some v :: (← matchArguments ps vs named)
  | p :: ps, [], named =>
    match named.lookup p.name with
    | some v =>
      return some v :: (← matchArguments ps [] (named.filter fun entry => entry.1 ≠ p.name))
    | none =>
      if p.required then .error .wrongKind
      else return none :: (← matchArguments ps [] named)

/-- Arguments of a call: values by position and by name. -/
structure Arguments where
  values : List Value
  named : List (String × Value)

def Arguments.matchWith (args : Arguments) (ps : List Parameter) :
    Except Failure (List (Option Value)) := matchArguments ps args.values args.named

/-- Calls without parameters take no arguments. -/
def Arguments.none (args : Arguments) : Except Failure Unit := do
  let _ ← args.matchWith []

/-! ### Conversion -/

def toIntegerIn (low high : Int) (v : Value) : Except Failure Int :=
  let fit (n : Int) : Except Failure Int :=
    if low ≤ n ∧ n ≤ high then .ok n else .error .overflow
  match v with
  | .boolean b => fit b.toNat
  | .integer n => fit n
  | _ => .error .wrongKind

def toInt64 (v : Value) : Except Failure Int64 :=
  Int64.ofInt <$> toIntegerIn Int64.minValue.toInt Int64.maxValue.toInt v

def toNatural (v : Value) : Except Failure Nat :=
  Int.toNat <$> toIntegerIn 0 (UInt64.size - 1) v

def toByte (v : Value) : Except Failure Nat := Int.toNat <$> toIntegerIn 0 255 v

def toText : Value → Except Failure String
  | .text s => .ok s
  | _ => .error .wrongKind

def toShape : Value → Except Failure Shape
  | .shape s => .ok s
  | _ => .error .wrongKind

def toRuleset : Value → Except Failure Configuration
  | .ruleset c => .ok c
  | _ => .error .wrongKind

def toEntries : Value → Except Failure (List (Value × Value))
  | .dict entries => .ok entries
  | _ => .error .wrongKind

/-- The elements of a value that is a sequence; those of a text are its characters. -/
def toItems : Value → Except Failure (List Value)
  | .list items => .ok items
  | .tuple items => .ok items
  | .text s => .ok (s.toList.map fun c => .text c.toString)
  | _ => .error .wrongKind

/-- Converts to a pair of integers. The length is looked at before the elements. -/
def toPair (v : Value) : Except Failure (Int64 × Int64) := do
  match ← toItems v with
  | [a, b] => return (← toInt64 a, ← toInt64 b)
  | items =>
    throw (.badValue ("expected a sequence of length 2 (got " ++
      Text.Numeral.text items.length ++ ")"))

/-- Converts to a seed, which may be left out or be nothing. -/
def toSeed : Option Value → Except Failure (Option UInt64)
  | none => .ok none
  | some .nothing => .ok none
  | some v => (fun n => some (UInt64.ofNat n)) <$> toNatural v

end LargerThanLife.Script
