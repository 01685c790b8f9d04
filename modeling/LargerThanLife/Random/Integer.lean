import LargerThanLife.Random.Generator

/-! Integers drawn from a closed range. A word is multiplied by the number of values: the upper half
of the product is the value's place in the range, and the lower half decides whether the word is
accepted, so that every place is taken by equally many words. Words are drawn until one is accepted.
A range that fills its kind of integers takes the lower bits of one word as they are. -/

namespace LargerThanLife

namespace Random

inductive WordSize where
  | single
  | double
  deriving DecidableEq, Repr

def WordSize.bits : WordSize → Nat
  | single => 32
  | double => 64

abbrev WordSize.count (w : WordSize) : Nat := 1 <<< w.bits

def drawWord (w : WordSize) : Draw (Fin w.count) := fun g =>
  match w with
  | .single => let (x, g) := g.next32; some (⟨x.toNat, x.toNat_lt⟩, g)
  | .double => let (x, g) := g.next64; some (⟨x.toNat, x.toNat_lt⟩, g)

/-- Integers of a fixed width, with or without a sign. -/
structure IntKind where
  bits : Nat
  signed : Bool
  bits_pos : 0 < bits
  deriving DecidableEq, Repr

namespace IntKind

def byte : IntKind := ⟨8, false, by decide⟩

def count : IntKind := ⟨16, false, by decide⟩

def min (k : IntKind) : Int := if k.signed then -(1 <<< (k.bits - 1) : Nat) else 0

def max (k : IntKind) : Int :=
  if k.signed then (1 <<< (k.bits - 1) : Nat) - 1 else (1 <<< k.bits : Nat) - 1

def wordSize (k : IntKind) : WordSize := if k.bits ≤ 32 then .single else .double

/-- The integer whose lower bits are those of a word. -/
def ofWord (k : IntKind) (word : Nat) : Int :=
  if k.signed then (BitVec.ofNat k.bits word).toInt else (BitVec.ofNat k.bits word).toNat

/-- The greatest lower half of a product that is accepted, for a range of `n` values. For up to
sixteen bits as many words as possible are accepted; for more, a bound that is easier to find. -/
def zone (k : IntKind) (n : Nat) : Nat :=
  let w := k.wordSize
  if k.bits ≤ 16 then w.count - 1 - (w.count - n) % n
  else n <<< (w.bits - 1 - n.log2) - 1

@[simp] theorem min_byte : byte.min = 0 := rfl

@[simp] theorem max_byte : byte.max = 255 := rfl

@[simp] theorem min_count : count.min = 0 := rfl

@[simp] theorem max_count : count.max = 65535 := rfl

theorem two_mul_shiftLeft (k : IntKind) : 2 * (1 <<< (k.bits - 1)) = 1 <<< k.bits := by
  have := k.bits_pos
  rw [Nat.one_shiftLeft, Nat.one_shiftLeft, ← Nat.pow_succ']
  congr 1
  omega

theorem max_sub_min (k : IntKind) : k.max - k.min + 1 = (1 <<< k.bits : Nat) := by
  have := k.two_mul_shiftLeft
  unfold max min
  split <;> omega

theorem min_le_ofWord (k : IntKind) (word : Nat) : k.min ≤ k.ofWord word := by
  have := k.two_mul_shiftLeft
  unfold min ofWord
  split
  · have := BitVec.le_two_mul_toInt (x := BitVec.ofNat k.bits word)
    have e : ((2 : Int) ^ k.bits) = ((2 ^ k.bits : Nat) : Int) := by simp
    rw [e] at this
    omega
  · omega

theorem ofWord_le_max (k : IntKind) (word : Nat) : k.ofWord word ≤ k.max := by
  have := k.two_mul_shiftLeft
  unfold max ofWord
  split
  · have := BitVec.two_mul_toInt_lt (x := BitVec.ofNat k.bits word)
    have e : ((2 : Int) ^ k.bits) = ((2 ^ k.bits : Nat) : Int) := by simp
    rw [e] at this
    omega
  · have := (BitVec.ofNat k.bits word).isLt
    omega

/-- A range that has as many values as its kind is all of it. -/
theorem range_full (k : IntKind) {low high : Int} (ordered : low ≤ high)
    (low_fits : k.min ≤ low) (high_fits : high ≤ k.max)
    (full : (high - low + 1).toNat % (1 <<< k.bits) = 0) : low = k.min ∧ high = k.max := by
  have size := k.max_sub_min
  have pos : 0 < 1 <<< k.bits := by rw [Nat.one_shiftLeft]; exact Nat.two_pow_pos _
  have dvd := Nat.dvd_of_mod_eq_zero full
  have le := Nat.le_of_dvd (by omega) dvd
  omega

end IntKind

/-- The place that a word stands for in a range of `n` values, if the word is accepted. -/
def place {w : WordSize} {n : Nat} (h : 0 < n) (zone : Nat) (word : Fin w.count) :
    Option (Fin n) :=
  let product := word.val * n
  if product % w.count ≤ zone then
    some ⟨product / w.count, Nat.div_lt_of_lt_mul (Nat.mul_lt_mul_of_pos_right word.isLt h)⟩
  else none

/-- Draws words until one is accepted, at most `tries` of them. -/
def search {w : WordSize} {n : Nat} (h : 0 < n) (zone : Nat) : Nat → Draw (Fin n)
  | 0 => failure
  | tries + 1 => do
    let word ← drawWord w
    match place h zone word with
    | some i => return i
    | none => search (w := w) h zone tries

/-- Draws a place in a range of `n` values. A search through the whole stream that accepts nothing
would go on for ever. -/
def drawPlace (k : IntKind) {n : Nat} (h : 0 < n) : Draw (Fin n) :=
  search (w := k.wordSize) h (k.zone n) Key.period

end Random

open LargerThanLife.Random

/-- Draws an integer of a kind between two others. -/
def drawBetween (k : IntKind) (low high : Int) (ordered : low ≤ high)
    (low_fits : k.min ≤ low) (high_fits : high ≤ k.max) :
    Draw { v : Int // low ≤ v ∧ v ≤ high } :=
  let n := (high - low + 1).toNat % (1 <<< k.bits)
  if full : n = 0 then do
    let word ← drawWord k.wordSize
    return ⟨k.ofWord word, by
      obtain ⟨rfl, rfl⟩ := k.range_full ordered low_fits high_fits full
      exact ⟨k.min_le_ofWord _, k.ofWord_le_max _⟩⟩
  else do
    let i ← drawPlace k (n := n) (Nat.pos_of_ne_zero full)
    return ⟨low + i.val, by
      have := i.isLt
      have : n ≤ (high - low + 1).toNat := Nat.mod_le _ _
      omega⟩

end LargerThanLife
