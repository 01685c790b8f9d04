import LargerThanLife.Log.Filter
import LargerThanLife.Record
import LargerThanLife.Script.State

/-! The functions of the module: each class makes its values from arguments, and one more function
installs a log filter. The arguments are matched with the parameters first and converted from left
to right, and only then is anything made. -/

namespace LargerThanLife.Script

def newShape (args : Arguments) : Except Failure Value := do
  match ← args.matchWith [needed "code"] with
  | [some code] => return .shape (← lift (Shape.ofCode (← toText code)))
  | _ => throw .wrongKind

/-- Makes a ruleset from its values; they are judged like those of a record. -/
def newRuleset (args : Arguments) : Except Failure Value := do
  match ← args.matchWith [needed "radius", needed "decay_states", needed "aging_enabled",
    needed "survival", needed "birth", needed "neighbourhood"] with
  | [some radius, some decayStates, some agingEnabled, some survival, some birth, some shape] =>
    let r : Record := {
      radius := ← toInt64 radius
      decayStates := ← toInt64 decayStates
      agingEnabled := ← toInt64 agingEnabled
      survivalInterval := ← toPair survival
      birthInterval := ← toPair birth
      neighbourhoodCode := (← toShape shape).code }
    return .ruleset (← lift r.validate)
  | _ => throw .wrongKind

def newBoard (args : Arguments) : Run Value := do
  match ← args.matchWith [needed "width", needed "height", needed "configuration"] with
  | [some width, some height, some c] =>
    let s ← get
    let b ← lift (Board.create s.memory (← toNatural width) (← toNatural height) (← toRuleset c))
    set { s with boards := s.boards.push b }
    return .board s.boards.size
  | _ => throw Failure.wrongKind

/-- Installs a log filter, unless one is there already. -/
def initLogging (args : Arguments) : Run Value := do
  match ← args.matchWith [optional "filter"] with
  | [filter] =>
    let filter ← match filter with
      | some v => toText v
      | none => pure Log.defaultFilter
    match Log.readFilter filter with
    | .error .badPlace => throw Failure.abandoned
    | .error fault => throw (.badValue fault.message)
    | .ok _ =>
      let s ← get
      set { s with logging := true }
      return .boolean !s.logging
  | _ => throw Failure.wrongKind

def callModule (name : String) (args : Arguments) : Run Value :=
  match name with
  | "Neighbourhood" => newShape args
  | "Configuration" => newRuleset args
  | "Board" => newBoard args
  | "init_logging" => initLogging args
  | _ => throw Failure.noAttribute

end LargerThanLife.Script
