import LargerThanLife.Script.Creation
import LargerThanLife.Script.Hash
import LargerThanLife.Script.Method

/-! Running a script. A script is a list of steps; each calls something by name, reads an attribute,
shows a value or compares two, and may keep its result in a variable. A step that fails changes
nothing, and the script goes on. -/

namespace LargerThanLife.Script

inductive Action where
  | call (name : String) (arguments : List Term) (named : List (String × Term))
  /-- reads an attribute -/
  | get (name : String)
  /-- shows a value -/
  | display
  /-- gives a value as a text -/
  | text
  | hash
  /-- compares with another value -/
  | equal (other : Term)
  | unequal (other : Term)

/-- A step: what is done, to what, and where its result is kept. Without a target the step is about
the module. -/
structure Step where
  target : Option String
  action : Action
  keep : Option String

/-! ### What a step is about -/

/-- What a step is about. -/
inductive Receiver where
  | module
  | ofClass (c : Class)
  | value (v : Value)

namespace Receiver

/-- A receiver as it is shown, or as a text. -/
def text (showValue : Value → String) : Receiver → Except Failure String
  | module => .error .wrongKind
  | ofClass c => .ok ("<class 'builtins." ++ c.name ++ "'>")
  | value v => .ok (showValue v)

def hash : Receiver → Except Failure Int
  | value v => match v.hash with
    | some n => .ok n
    | none => .error .wrongKind
  | _ => .error .wrongKind

/-- Is a receiver the same as a value? The module and the classes are no values. -/
def isSame (v : Value) : Receiver → Bool
  | value w => w.same v
  | _ => false

def call (receiver : Receiver) (name : String) (args : Arguments) : Run Value :=
  match receiver with
  | module => callModule name args
  | ofClass c => callClass c name args
  | value v => callValue v name args

def get (boards : Array Board) (receiver : Receiver) (name : String) : Except Failure Value :=
  match receiver with
  | module => .error .noAttribute
  | ofClass c => classAttribute c name
  | value v => attributeOf boards v name

end Receiver

/-- What a name stands for: a variable, or else a class. -/
def receiver (s : Session) : Option String → Except Failure Receiver
  | none => .ok .module
  | some name =>
    match s.known.lookup name with
    | some v => .ok (.value v)
    | none =>
      match Class.ofName? name with
      | some c => .ok (.ofClass c)
      | none => .error .unknownName

/-! ### Results of steps -/

def perform (target : Option String) (action : Action) : Run Value := do
  let s ← get
  let receiver ← receiver s target
  match action with
  | .call name arguments named =>
    let args : Arguments :=
      ⟨← evaluateItems s.known arguments, ← evaluateNamed s.known named⟩
    receiver.call name args
  | .get name => Receiver.get s.boards receiver name
  | .display => return .text (← receiver.text (Value.shown (showBoard s.boards)))
  | .text => return .text (← receiver.text (Value.asText (showBoard s.boards)))
  | .hash => return .integer (← receiver.hash)
  | .equal other => return .boolean (receiver.isSame (← evaluate s.known other))
  | .unequal other => return .boolean !(receiver.isSame (← evaluate s.known other))

/-- What a step brings about: a value and the boards as they are then, or a failure. -/
abbrev Outcome := Except Failure (Value × Array Board)

def Session.take (s : Session) (step : Step) : Outcome × Session :=
  match (perform step.target step.action).run s with
  | .error failure => (.error failure, s)
  | .ok (v, next) =>
    let kept := match step.keep with
      | some name => { next with known := (name, v) :: next.known }
      | none => next
    (.ok (v, next.boards), kept)

def Session.outcomes (s : Session) : List Step → List Outcome
  | [] => []
  | step :: rest =>
    let (outcome, next) := s.take step
    outcome :: next.outcomes rest

end LargerThanLife.Script
