import LargerThanLife.Fault

/-! The two shapes of a neighbourhood. A shape is a metric on the grid: the greater of the two
coordinate distances for the square, their sum for the diamond. It decides which cells are within a
radius and how many they are, and it has a code of two letters. -/

namespace LargerThanLife

/-- How the distance between two cells is measured. -/
inductive Shape where
  /-- the full square around a cell -/
  | moore
  /-- the diamond around a cell -/
  | vonNeumann
  deriving DecidableEq, Repr

namespace Shape

def code : Shape → String
  | moore => "NM"
  | vonNeumann => "NN"

/-- The shape with a given code; the match is exact. -/
def ofCode (code : String) : Except Fault Shape :=
  if code = "NM" then .ok moore
  else if code = "NN" then .ok vonNeumann
  else .error (.unknownCode code)

/-- The distance from the origin to `(dx, dy)`. -/
def distance (dx dy : Int) : Shape → Nat
  | moore => max dx.natAbs dy.natAbs
  | vonNeumann => dx.natAbs + dy.natAbs

/-- Is `(dx, dy)` within `radius` of the origin? The origin itself is. -/
def contains (shape : Shape) (dx dy : Int) (radius : Nat) : Bool :=
  shape.distance dx dy ≤ radius

/-- The number of cells within `radius` of a cell, the cell itself left out. -/
def neighbourCount (shape : Shape) (radius : Nat) : Nat :=
  match shape with
  | moore => (2 * radius + 1) * (2 * radius + 1) - 1
  | vonNeumann => 2 * radius * (radius + 1)

@[simp] theorem ofCode_code (shape : Shape) : ofCode shape.code = .ok shape := by
  cases shape <;> simp [ofCode, code]

theorem ofCode_eq_ok_iff {s : String} {shape : Shape} : ofCode s = .ok shape ↔ s = shape.code := by
  constructor
  · intro h
    unfold ofCode at h
    split at h
    · next e => cases h; exact e
    · split at h
      · next e => cases h; exact e
      · cases h
  · rintro rfl
    exact ofCode_code shape

theorem contains_iff {shape : Shape} {dx dy : Int} {radius : Nat} :
    shape.contains dx dy radius ↔ shape.distance dx dy ≤ radius := decide_eq_true_iff

@[simp] theorem distance_eq_zero_iff {shape : Shape} {dx dy : Int} :
    shape.distance dx dy = 0 ↔ dx = 0 ∧ dy = 0 := by
  cases shape <;> simp only [distance] <;> omega

@[simp] theorem distance_zero (shape : Shape) : shape.distance 0 0 = 0 :=
  distance_eq_zero_iff.mpr ⟨rfl, rfl⟩

@[simp] theorem distance_neg (shape : Shape) (dx dy : Int) :
    shape.distance (-dx) (-dy) = shape.distance dx dy := by
  cases shape <;> simp [distance]

theorem distance_swap (shape : Shape) (dx dy : Int) :
    shape.distance dy dx = shape.distance dx dy := by
  cases shape <;> simp only [distance] <;> omega

end Shape

end LargerThanLife
