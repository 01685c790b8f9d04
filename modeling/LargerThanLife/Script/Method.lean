import LargerThanLife.Script.Class
import LargerThanLife.Script.Dictionary

/-! Methods of shapes, rulesets and boards. A call of a board's method is an operation, which puts a
changed board in the place of the old one, or a question. A method can also be called on its class,
with the value as its first argument, and the class of rulesets has functions that need no value. -/

namespace LargerThanLife.Script

def callRulesetClass (name : String) (args : Arguments) : Run Value := do
  match name with
  | "randomize" =>
    match ← args.matchWith [optional "seed"] with
    | [seed] =>
      match Configuration.ofSeed (← seedOr (← toSeed seed)) with
      | some c => return .ruleset c
      | none => throw Failure.wrongKind
    | _ => throw Failure.wrongKind
  | "from_rulestring" =>
    match ← args.matchWith [needed "rulestring"] with
    | [some s] => return .ruleset (← lift (Configuration.ofRulestring (← toText s)))
    | _ => throw Failure.wrongKind
  | "from_dict" =>
    match ← args.matchWith [needed "dict"] with
    | [some d] =>
      return .ruleset (← ofDictionary (showBoard (← get).boards) (← toEntries d))
    | _ => throw Failure.wrongKind
  | _ => throw (Class.ruleset.noMethod name)

def callShape (shape : Shape) (name : String) (args : Arguments) : Except Failure Value := do
  match name with
  | "offsets" =>
    match ← args.matchWith [needed "radius"] with
    | [some radius] =>
      return .list ((shape.offsets (← toByte radius)).map fun o =>
        .tuple [.integer o.dx, .integer o.dy])
    | _ => throw .wrongKind
  | _ => throw (Class.shape.noMethod name)

/-- Calls a method of a ruleset; the functions of its class can be called on it too. -/
def callRuleset (c : Configuration) (name : String) (args : Arguments) : Run Value := do
  match name with
  | "to_dict" =>
    args.none
    return .dict (toDictionary c)
  | _ => callRulesetClass name args

def coordinates (args : Arguments) : Except Failure (Nat × Nat) := do
  match ← args.matchWith [needed "x", needed "y"] with
  | [some x, some y] => return (← toNatural x, ← toNatural y)
  | _ => throw .wrongKind

/-- The operation that a call of a board's method stands for, if it stands for one. -/
def operation? (name : String) (args : Arguments) : Run (Option Operation) := do
  match name with
  | "set_cell" =>
    match ← args.matchWith [needed "x", needed "y", needed "state"] with
    | [some x, some y, some state] =>
      return some (.set (← toNatural x) (← toNatural y) (← toByte state))
    | _ => throw Failure.wrongKind
  | "cell_up" =>
    let (x, y) ← coordinates args
    return some (.raise x y)
  | "cell_down" =>
    let (x, y) ← coordinates args
    return some (.kill x y)
  | "randomize" =>
    match ← args.matchWith [optional "seed"] with
    | [seed] => return some (.fill (Generator.ofSeed (← seedOr (← toSeed seed))))
    | _ => throw Failure.wrongKind
  | "reset" =>
    args.none
    return some .reset
  | "step" =>
    args.none
    return some .step
  | "step_n" =>
    match ← args.matchWith [needed "generations"] with
    | [some n] => return some (.stepN (← toNatural n))
    | _ => throw Failure.wrongKind
  | _ => return none

/-- The question that a call of a board's method stands for, if it stands for one. -/
def query? (name : String) (args : Arguments) : Except Failure (Option Query) := do
  match name with
  | "get_cell" =>
    let (x, y) ← coordinates args
    return some (.cell x y)
  | "live_neighbours" =>
    let (x, y) ← coordinates args
    return some (.liveNeighbours x y)
  | "rows" =>
    args.none
    return some .rows
  | _ => return none

def ofNumbers (ns : List Nat) : Value := .list (ns.map fun (n : Nat) => .integer n)

def ofAnswer : Answer → Value
  | .number n => .integer n
  | .list ns => ofNumbers ns
  | .table rows => .list (rows.map ofNumbers)

def callBoard (number : Nat) (name : String) (args : Arguments) : Run Value := do
  match (← get).boards[number]? with
  | none => throw Failure.unknownName
  | some b =>
    match ← operation? name args with
    | some op =>
      let b ← lift (b.apply op)
      modify fun s => { s with boards := s.boards.setIfInBounds number b }
      return .nothing
    | none =>
      match ← query? name args with
      | some query => return ofAnswer (← lift (b.ask query))
      | none => throw (Class.board.noMethod name)

def callValue (v : Value) (name : String) (args : Arguments) : Run Value :=
  match v with
  | .shape s => callShape s name args
  | .ruleset c => callRuleset c name args
  | .board number => callBoard number name args
  | _ => throw Failure.noAttribute

/-- Calls a function of a class, or a method of it on the first argument, which must be a value of
the class. -/
def callClass (c : Class) (name : String) (args : Arguments) : Run Value :=
  if name ∈ c.methods then
    match args.values with
    | v :: values =>
      if Class.ofValue? v = some c then callValue v name { args with values }
      else throw Failure.wrongKind
    | [] => throw Failure.wrongKind
  else if c = .ruleset then callRulesetClass name args
  else throw (c.noMethod name)

end LargerThanLife.Script
