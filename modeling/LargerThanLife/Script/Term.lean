import LargerThanLife.Script.Argument

/-! Arguments as they are written in a script: plain data with variables in it. The value of a term
is found from left to right; a variable must have been given a value, and the keys of a dictionary
must be values that can be keys. -/

namespace LargerThanLife.Script

/-- An argument as it is written: plain data with variables in it. -/
inductive Term where
  | value (v : Value)
  | reference (name : String)
  | list (items : List Term)
  | tuple (items : List Term)
  | dict (entries : List (Term × Term))
  deriving Inhabited

/-- The values of variables; a later value stands before the ones that it replaces. -/
abbrev Variables := List (String × Value)

mutual

def evaluate (known : Variables) : Term → Except Failure Value
  | .value v => .ok v
  | .reference name =>
    match known.lookup name with
    | some v => .ok v
    | none => .error .unknownName
  | .list items => do return .list (← evaluateItems known items)
  | .tuple items => do return .tuple (← evaluateItems known items)
  | .dict entries => do
    let entries ← evaluateEntries known entries
    if Value.areKeys (entries.map (·.1)) then return .dict (Value.ofEntries entries)
    else throw .wrongKind

def evaluateItems (known : Variables) : List Term → Except Failure (List Value)
  | [] => .ok []
  | t :: rest => do return (← evaluate known t) :: (← evaluateItems known rest)

def evaluateEntries (known : Variables) :
    List (Term × Term) → Except Failure (List (Value × Value))
  | [] => .ok []
  | (k, v) :: rest => do
    return (← evaluate known k, ← evaluate known v) ::
      (← evaluateEntries known rest)

end

def evaluateNamed (known : Variables) (named : List (String × Term)) :
    Except Failure (List (String × Value)) :=
  named.mapM fun (name, t) => do return (name, ← evaluate known t)

end LargerThanLife.Script
