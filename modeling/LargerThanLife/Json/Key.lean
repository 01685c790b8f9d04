import LargerThanLife.Fault

/-! The keys of a stored ruleset. The fields of a record are declared with underscores between the words
of their names, and the keys are derived from these names: the words stand without underscores, each
but the first with a capital letter. -/

namespace LargerThanLife.Json

def declaredName : Field → String
  | .radius => "radius"
  | .decayStates => "decay_states"
  | .agingEnabled => "aging_enabled"
  | .survivalInterval => "survival_interval"
  | .birthInterval => "birth_interval"
  | .neighbourhoodCode => "neighbourhood_code"

/-- A name without its underscores. A letter behind one becomes a capital, and so does the first letter
if `capital` is set. -/
def joinWords (capital : Bool) : List Char → List Char
  | [] => []
  | c :: rest =>
    if c = '_' then joinWords true rest
    else (if capital then c.toUpper else c) :: joinWords false rest

/-- All words with a capital letter, and then the first letter small again. -/
def camelCase (name : List Char) : List Char := (joinWords true name).modifyHead Char.toLower

def key (f : Field) : String := String.ofList (camelCase (declaredName f).toList)

/-- A stored field has the name that messages have for it. -/
@[simp] theorem key_eq_name (f : Field) : key f = f.name := by
  cases f <;> decide

def ofKey? (s : String) : Option Field := Field.all.find? fun f => key f = s

theorem ofKey?_eq_some_iff {s : String} {f : Field} : ofKey? s = some f ↔ s = f.name := by
  constructor
  · intro h
    have found := List.find?_some h
    simpa using (of_decide_eq_true found).symm
  · rintro rfl
    cases f <;> decide

@[simp] theorem ofKey?_name (f : Field) : ofKey? f.name = some f := ofKey?_eq_some_iff.mpr rfl

end LargerThanLife.Json
