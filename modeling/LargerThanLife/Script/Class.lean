import LargerThanLife.Script.State

/-! The three classes of a script: shapes, rulesets and boards. A class has attributes, which are
read, and methods, which are called on a value of the class. The two constant shapes are attributes
of the class of shapes, and every shape has them too. -/

namespace LargerThanLife.Script

inductive Class where
  | shape
  | ruleset
  | board
  deriving DecidableEq, Repr

namespace Class

def all : List Class := [shape, ruleset, board]

/-- The name of a class, by which its values are made. -/
def name : Class → String
  | shape => "Neighbourhood"
  | ruleset => "Configuration"
  | board => "Board"

def ofName? (s : String) : Option Class := all.find? fun c => c.name = s

/-- The class of a value, unless it is plain data. -/
def ofValue? : Value → Option Class
  | .shape _ => some shape
  | .ruleset _ => some ruleset
  | .board _ => some board
  | _ => none

def attributes : Class → List String
  | shape => ["MOORE", "VON_NEUMANN", "code"]
  | ruleset =>
    ["radius", "decay_states", "aging_enabled", "survival", "birth", "neighbourhood", "max_state"]
  | board => ["width", "height", "configuration", "generation", "population"]

def methods : Class → List String
  | shape => ["offsets"]
  | ruleset => ["to_dict"]
  | board =>
    ["get_cell", "set_cell", "cell_up", "cell_down", "live_neighbours", "randomize", "reset",
      "step", "step_n", "rows"]

/-- The failure of a call by a name that is no method: an attribute cannot be called, and any other
name stands for nothing. -/
def noMethod (c : Class) (name : String) : Failure :=
  if name ∈ c.attributes then .wrongKind else .noAttribute

end Class

/-! ### Attributes -/

def ofInterval (i : Interval) : Value :=
  .tuple [.integer i.min.toNat, .integer i.max.toNat]

/-- An attribute of the class of shapes, which every shape has too. -/
def shapeConstant (name : String) : Except Failure Value :=
  match name with
  | "MOORE" => .ok (.shape .moore)
  | "VON_NEUMANN" => .ok (.shape .vonNeumann)
  | _ => .error .noAttribute

def rulesetAttribute (c : Configuration) (name : String) : Except Failure Value :=
  match name with
  | "radius" => .ok (.integer c.radius)
  | "decay_states" => .ok (.integer c.depth)
  | "aging_enabled" => .ok (.boolean c.aging)
  | "survival" => .ok (ofInterval c.survival)
  | "birth" => .ok (ofInterval c.birth)
  | "neighbourhood" => .ok (.shape c.shape)
  | "max_state" => .ok (.integer c.maxState)
  | _ => .error .noAttribute

def boardAttribute (b : Board) (name : String) : Except Failure Value :=
  match name with
  | "width" => .ok (.integer b.width)
  | "height" => .ok (.integer b.height)
  | "configuration" => .ok (.ruleset b.configuration)
  | "generation" => .ok (.integer b.generation)
  | "population" => .ok (.integer b.population)
  | _ => .error .noAttribute

def attributeOf (boards : Array Board) (v : Value) (name : String) : Except Failure Value :=
  match v with
  | .shape s => if name = "code" then .ok (.text s.code) else shapeConstant name
  | .ruleset c => rulesetAttribute c name
  | .board number =>
    match boards[number]? with
    | some b => boardAttribute b name
    | none => .error .unknownName
  | _ => .error .noAttribute

def classAttribute (c : Class) (name : String) : Except Failure Value :=
  match c with
  | .shape => shapeConstant name
  | _ => .error .noAttribute

end LargerThanLife.Script
