import LargerThanLife.Fault
import LargerThanLife.Proofs.Outcome

/-! Computing with machine words. Words have 8, 32 or 64 bits, and there are integers of 32 bits with a
sign; a number that does not fit its word stops the machine, and so do a division by zero, an index past
the end of a buffer and a buffer that is cut into pieces of no length. Each operation has one law, which
says when the machine goes on and that the result is then the one of unbounded integers. -/

namespace LargerThanLife.Machine

/-- Why a machine stops in the middle of a computation. -/
inductive Trap where
  | overflow
  | divisionByZero
  | indexOutOfRange
  | emptyPiece
  deriving DecidableEq, Repr

/-- How a computation ends that gives no result. -/
inductive Halt where
  /-- a refusal, of which the caller is told -/
  | fault (f : Fault)
  | trap (t : Trap)
  deriving DecidableEq, Repr

/-- The machine refuses for the given fault. A trap is no refusal. -/
def Refused (halt : Halt) (f : Fault) : Prop := halt = .fault f

/-- A kind of words: how many there are, and which number each stands for. -/
structure Word (α : Type) where
  size : Nat
  ofNat : Nat → α
  toNat : α → Nat
  toNat_ofNat : ∀ {n : Nat}, n < size → toNat (ofNat n) = n

/-- Words of 8 bits, for the states of cells. -/
def byte : Word UInt8 := ⟨UInt8.size, UInt8.ofNat, UInt8.toNat, UInt8.toNat_ofNat_of_lt'⟩

/-- Words of 32 bits, for counts of neighbours. -/
def half : Word UInt32 := ⟨UInt32.size, UInt32.ofNat, UInt32.toNat, UInt32.toNat_ofNat_of_lt'⟩

/-- Words of 64 bits, for coordinates, indices and the clock. -/
def full : Word UInt64 := ⟨UInt64.size, UInt64.ofNat, UInt64.toNat, UInt64.toNat_ofNat_of_lt'⟩

variable {α β : Type}

/-! ### Arithmetic -/

namespace Word

variable (w : Word α)

def fit (n : Nat) : Except Halt α :=
  if n < w.size then .ok (w.ofNat n) else .error (.trap .overflow)

def add (a b : α) : Except Halt α := w.fit (w.toNat a + w.toNat b)

def mul (a b : α) : Except Halt α := w.fit (w.toNat a * w.toNat b)

def next (a : α) : Except Halt α := w.fit (w.toNat a + 1)

def previous (a : α) : Except Halt α :=
  if w.toNat a = 0 then .error (.trap .overflow) else w.fit (w.toNat a - 1)

/-- Counts the entries of a list that pass a test, on from a given count. -/
def tally (test : β → Except Halt Bool) : List β → α → Except Halt α
  | [], count => return count
  | b :: rest, count => do
    if ← test b then tally test rest (← w.next count) else tally test rest count

variable {w} {a b : α} {m n : Nat}

theorem fit_eq_ok {n : Nat} (fits : n < w.size) : ∃ a, w.fit n = .ok a ∧ w.toNat a = n :=
  ⟨w.ofNat n, if_pos fits, w.toNat_ofNat fits⟩

theorem mul_eq_ok (left : w.toNat a = m) (right : w.toNat b = n) (fits : m * n < w.size) :
    ∃ c, w.mul a b = .ok c ∧ w.toNat c = m * n := by
  rw [mul, left, right]
  exact fit_eq_ok fits

theorem next_eq_ok (value : w.toNat a = n) (fits : n + 1 < w.size) :
    ∃ b, w.next a = .ok b ∧ w.toNat b = n + 1 := by
  rw [next, value]
  exact fit_eq_ok fits

theorem previous_eq_ok (value : w.toNat a = n + 1) (fits : n < w.size) :
    ∃ b, w.previous a = .ok b ∧ w.toNat b = n := by
  rw [previous, value, if_neg (Nat.succ_ne_zero n), Nat.add_sub_cancel]
  exact fit_eq_ok fits

theorem tally_eq_ok {test : β → Except Halt Bool} {p : β → Bool} {bs : List β}
    (decided : ∀ b ∈ bs, test b = .ok (p b)) (count : α)
    (fits : w.toNat count + bs.countP p < w.size) :
    ∃ total, w.tally test bs count = .ok total ∧ w.toNat total = w.toNat count + bs.countP p := by
  induction bs generalizing count with
  | nil => exact ⟨count, rfl, rfl⟩
  | cons b bs ih =>
    have rest : ∀ b ∈ bs, test b = .ok (p b) := fun _ mem => decided _ (List.mem_cons_of_mem _ mem)
    rw [tally, decided b List.mem_cons_self, ok_bind]
    cases passed : p b with
    | false =>
      rw [List.countP_cons_of_neg (by simp [passed])] at fits ⊢
      exact ih rest count fits
    | true =>
      rw [List.countP_cons_of_pos passed, Nat.add_comm (bs.countP p), ← Nat.add_assoc] at fits ⊢
      obtain ⟨count', counted, value⟩ := fit_eq_ok (Nat.lt_of_le_of_lt (Nat.le_add_right _ _) fits)
      rw [← value] at fits ⊢
      obtain ⟨total, found, sum⟩ := ih rest count' fits
      refine ⟨total, ?_, sum⟩
      simpa [next, counted] using found

end Word

def quotient (a b : UInt64) : Except Halt UInt64 :=
  if b = 0 then .error (.trap .divisionByZero) else .ok (a / b)

def remainder (a b : UInt64) : Except Halt UInt64 :=
  if b = 0 then .error (.trap .divisionByZero) else .ok (a % b)

def signed (n : Int) : Except Halt Int32 :=
  if Int32.minValue.toInt ≤ n ∧ n ≤ Int32.maxValue.toInt then .ok (Int32.ofInt n)
  else .error (.trap .overflow)

/-- The absolute value. The least integer has none. -/
def magnitude (d : Int32) : Except Halt Int32 := signed d.toInt.natAbs

theorem toInt_ofInt_of_fits {n : Int} (fits : -2147483648 ≤ n ∧ n ≤ 2147483647) :
    (Int32.ofInt n).toInt = n :=
  Int32.toInt_ofInt_of_le (by omega) (by omega)

theorem signed_eq_ok {n : Int} (fits : -2147483648 ≤ n ∧ n ≤ 2147483647) :
    ∃ d, signed n = .ok d ∧ d.toInt = n :=
  ⟨Int32.ofInt n, if_pos fits, toInt_ofInt_of_fits fits⟩

theorem magnitude_eq_ok {d : Int32} (fits : d.toInt.natAbs ≤ 2147483647) :
    ∃ m, magnitude d = .ok m ∧ m.toInt = d.toInt.natAbs :=
  signed_eq_ok ⟨by omega, by omega⟩

/-- A coordinate moved by a distance with a sign, if it is one still. -/
def moved? (x : UInt64) (d : Int32) : Option UInt64 :=
  if 0 ≤ (x.toNat : Int) + d.toInt ∧ (x.toNat : Int) + d.toInt < UInt64.size then
    some (UInt64.ofNat ((x.toNat : Int) + d.toInt).toNat)
  else none

theorem moved?_eq_some_iff {x y : UInt64} {d : Int32} :
    moved? x d = some y ↔ (x.toNat : Int) + d.toInt = y.toNat := by
  have bound := y.toNat_lt_size
  unfold moved?
  split
  · next inside =>
    rw [Option.some.injEq, ← UInt64.toNat_inj, UInt64.toNat_ofNat_of_lt' (by omega)]
    omega
  · next outside =>
    constructor
    · intro h
      cases h
    · intro h
      omega

theorem moved?_eq_none_iff {x : UInt64} {d : Int32} :
    moved? x d = none ↔ ¬(0 ≤ (x.toNat : Int) + d.toInt ∧ (x.toNat : Int) + d.toInt < UInt64.size) := by
  unfold moved?
  split
  · next inside => exact iff_of_false (Option.some_ne_none _) (not_not_intro inside)
  · next outside => exact iff_of_true rfl outside

/-! ### Lists -/

/-- The integers from one to another, both included. -/
def between (low high : Int32) : List Int32 :=
  (List.range (high.toInt - low.toInt + 1).toNat).map fun (i : Nat) => Int32.ofInt (low.toInt + i)

/-- The entries of a list that pass a test. -/
def keep (test : α → Except Halt Bool) : List α → Except Halt (List α)
  | [] => return []
  | a :: rest => do
    let passed ← test a
    let kept ← keep test rest
    return if passed then a :: kept else kept

theorem map_toInt_between {low high : Int32} :
    (between low high).map Int32.toInt =
      (List.range (high.toInt - low.toInt + 1).toNat).map fun (i : Nat) => low.toInt + i := by
  rw [between, List.map_map]
  refine List.map_congr_left fun i mem => ?_
  have before := List.mem_range.mp mem
  have above := low.le_toInt
  have below := high.toInt_lt
  exact toInt_ofInt_of_fits (by omega)

theorem keep_eq_ok {test : α → Except Halt Bool} {p : α → Bool} {as : List α}
    (decided : ∀ a ∈ as, test a = .ok (p a)) : keep test as = .ok (as.filter p) := by
  induction as with
  | nil => rfl
  | cons a as ih =>
    obtain ⟨first, rest⟩ := List.forall_mem_cons.mp decided
    simp [keep, first, ih rest, List.filter_cons]

/-! ### Buffers -/

def read (buffer : Array α) (i : UInt64) : Except Halt α :=
  if h : i.toNat < buffer.size then .ok buffer[i.toNat] else .error (.trap .indexOutOfRange)

def write (buffer : Array α) (i : UInt64) (a : α) : Except Halt (Array α) :=
  if h : i.toNat < buffer.size then .ok (buffer.set i.toNat a h)
  else .error (.trap .indexOutOfRange)

@[simp] theorem read_eq_ok {buffer : Array α} {i : UInt64} (inside : i.toNat < buffer.size) :
    read buffer i = .ok buffer[i.toNat] := dif_pos inside

@[simp] theorem write_eq_ok {buffer : Array α} {i : UInt64} (inside : i.toNat < buffer.size) (a : α) :
    write buffer i a = .ok (buffer.set i.toNat a inside) := dif_pos inside

/-- A list cut into pieces of a length, of which the last may be shorter. -/
def pieces (length : Nat) (s : List α) : List (List α) :=
  if s = [] ∨ length = 0 then [] else s.take length :: pieces length (s.drop length)
termination_by s.length
decreasing_by
  have := List.length_pos_iff.mpr (not_or.mp ‹_›).1
  rw [List.length_drop]
  omega

def cut (length : UInt64) (buffer : Array α) : Except Halt (List (List α)) :=
  if length = 0 then .error (.trap .emptyPiece) else .ok (pieces length.toNat buffer.toList)

theorem pieces_eq_map_range {length : Nat} (positive : 0 < length) (count : Nat) {s : List α}
    (whole : s.length = count * length) :
    pieces length s = (List.range count).map fun i => (s.drop (i * length)).take length := by
  induction count generalizing s with
  | zero =>
    have nothing : s = [] := by
      rw [Nat.zero_mul] at whole
      exact List.length_eq_zero_iff.mp whole
    rw [pieces, if_pos (.inl nothing)]
    rfl
  | succ count ih =>
    have some_left : s ≠ [] := by
      rintro rfl
      rw [List.length_nil, Nat.succ_mul] at whole
      omega
    have rest : (s.drop length).length = count * length := by
      rw [List.length_drop, whole, Nat.succ_mul, Nat.add_sub_cancel]
    rw [pieces, if_neg (not_or.mpr ⟨some_left, Nat.ne_of_gt positive⟩), ih rest, List.range_succ_eq_map,
      List.map_cons, List.map_map, Nat.zero_mul, List.drop_zero]
    congr 2
    funext i
    rw [Function.comp_apply, List.drop_drop, Nat.succ_mul, Nat.add_comm length]

end LargerThanLife.Machine
