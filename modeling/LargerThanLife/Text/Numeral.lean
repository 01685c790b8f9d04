/-! Decimal numerals without a fraction. `read` accepts an optional plus sign and then one or more
ASCII digits, with any number of leading zeros, and nothing else; `write` gives the shortest digits
of a natural number and `writeInt` puts a minus sign before those of a negative one. Reading what
was written gives the number back. -/

namespace LargerThanLife.Text.Numeral

/-- The digits of a natural number, without leading zeros. -/
def write (n : Nat) : List Char := Nat.toDigits 10 n

def writeInt (n : Int) : List Char := if n < 0 then '-' :: write n.natAbs else write n.natAbs

def text (n : Nat) : String := String.ofList (write n)

def intText (n : Int) : String := String.ofList (writeInt n)

/-- The number that a nonempty run of digits stands for. -/
def readDigits (s : List Char) : Option Nat :=
  if s ≠ [] ∧ s.all Char.isDigit then some (Nat.ofDigitChars 10 s 0) else none

def dropPlus : List Char → List Char
  | '+' :: r => r
  | s => s

def read (s : List Char) : Option Nat := readDigits (dropPlus s)

/-- The number that an unsigned numeral stands for, if it is at most `limit`. -/
def readUpTo (limit : Nat) (s : List Char) : Option Nat := (read s).filter (· ≤ limit)

theorem isDigit_of_mem_write {n : Nat} {c : Char} (h : c ∈ write n) : c.isDigit :=
  Nat.isDigit_of_mem_toDigits (by decide) (by decide) h

theorem write_ne_nil (n : Nat) : write n ≠ [] := Nat.toDigits_ne_nil

@[simp] theorem readDigits_write (n : Nat) : readDigits (write n) = some n := by
  have hd : (write n).all Char.isDigit := List.all_eq_true.2 fun _ h => isDigit_of_mem_write h
  rw [readDigits, if_pos ⟨write_ne_nil n, hd⟩]
  exact congrArg some Nat.ofDigitChars_ten_toDigits

@[simp] theorem dropPlus_write (n : Nat) : dropPlus (write n) = write n := by
  unfold dropPlus
  split
  · next r h =>
    have : ('+' : Char).isDigit := isDigit_of_mem_write (n := n) (by rw [h]; simp)
    exact absurd this (by decide)
  · rfl

@[simp] theorem read_write (n : Nat) : read (write n) = some n := by
  rw [read, dropPlus_write, readDigits_write]

/-- A negative number is written with a minus sign, which no unsigned numeral has. -/
theorem readUpTo_writeInt (limit : Nat) (n : Int) :
    readUpTo limit (writeInt n) = if 0 ≤ n ∧ n ≤ limit then some n.toNat else none := by
  unfold writeInt
  split
  · next negative =>
    rw [if_neg (by omega)]
    rfl
  · next h =>
    obtain ⟨m, rfl⟩ := Int.eq_ofNat_of_zero_le (Int.not_lt.mp h)
    simp only [Int.natAbs_natCast, readUpTo, read_write, Option.filter, Int.toNat_natCast,
      decide_eq_true_eq, Int.natCast_nonneg, true_and, Int.ofNat_le]

theorem isDigit_or_minus_of_mem_writeInt {n : Int} {c : Char} (h : c ∈ writeInt n) :
    c.isDigit ∨ c = '-' := by
  unfold writeInt at h
  split at h
  · rcases List.mem_cons.mp h with rfl | digit
    · exact .inr rfl
    · exact .inl (isDigit_of_mem_write digit)
  · exact .inl (isDigit_of_mem_write h)

end LargerThanLife.Text.Numeral
