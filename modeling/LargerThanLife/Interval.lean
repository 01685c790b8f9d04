import LargerThanLife.Fault

/-! Closed intervals of neighbour counts. The ends are 16-bit counts in increasing order, which the
type guarantees; the only way to fail is to give them in the wrong order. -/

namespace LargerThanLife

/-- The counts from `min` to `max`, both included. -/
structure Interval where
  min : UInt16
  max : UInt16
  ordered : min ≤ max
  deriving DecidableEq, Repr

namespace Interval

/-- The interval with the given ends; `subject` is what a fault is reported about. -/
def create (subject : Subject) (min max : UInt16) : Except Fault Interval :=
  if h : min ≤ max then .ok ⟨min, max, h⟩
  else .error (.invalid subject (.reversed min.toNat max.toNat))

def contains (i : Interval) (count : Nat) : Bool := i.min.toNat ≤ count && count ≤ i.max.toNat

def ends (i : Interval) : UInt16 × UInt16 := (i.min, i.max)

/-- The written form `min..max`. -/
def write (i : Interval) : List Char :=
  Text.Numeral.write i.min.toNat ++ '.' :: '.' :: Text.Numeral.write i.max.toNat

def text (i : Interval) : String := String.ofList i.write

@[simp] theorem contains_zero_iff {i : Interval} : i.contains 0 ↔ i.min = 0 := by
  simp [contains, ← UInt16.toNat_inj]

@[simp] theorem create_ends (subject : Subject) (i : Interval) :
    create subject i.ends.1 i.ends.2 = .ok i := by
  simp [create, ends, i.ordered]

theorem create_eq_ok_iff {subject : Subject} {min max : UInt16} {i : Interval} :
    create subject min max = .ok i ↔ (min, max) = i.ends := by
  constructor
  · intro h
    unfold create at h
    split at h
    · cases h; rfl
    · cases h
  · intro h
    simp only [ends, Prod.mk.injEq] at h
    obtain ⟨rfl, rfl⟩ := h
    exact create_ends subject i

end Interval

end LargerThanLife
