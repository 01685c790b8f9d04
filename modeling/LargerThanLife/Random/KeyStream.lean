/-! The key stream of the ChaCha cipher with eight rounds. A key of eight words and a block number
give a block of sixteen words; the words of all blocks in turn form one stream, read by position.
The nonce is zero throughout. All sums are modulo `2 ^ 32`. -/

namespace LargerThanLife.Random

/-- Four words, one row of the cipher's square. -/
structure Row where
  w0 : UInt32
  w1 : UInt32
  w2 : UInt32
  w3 : UInt32
  deriving DecidableEq, Repr

namespace Row

def zip (f : UInt32 → UInt32 → UInt32) (a b : Row) : Row :=
  ⟨f a.w0 b.w0, f a.w1 b.w1, f a.w2 b.w2, f a.w3 b.w3⟩

/-- A word with its bits turned left by `n`, for `n` from 1 to 31. -/
def turnLeft (n : UInt32) (x : UInt32) : UInt32 := x <<< n ||| x >>> (32 - n)

/-- The exclusive or of two rows, each word turned left. -/
def mix (n : UInt32) (a b : Row) : Row := zip (fun x y => turnLeft n (x ^^^ y)) a b

def add (a b : Row) : Row := zip (· + ·) a b

/-- The row with its words moved left by one place. -/
def shift (a : Row) : Row := ⟨a.w1, a.w2, a.w3, a.w0⟩

def words (a : Row) : List UInt32 := [a.w0, a.w1, a.w2, a.w3]

end Row

/-- Sixteen words, as four rows. -/
structure Square where
  a : Row
  b : Row
  c : Row
  d : Row
  deriving DecidableEq, Repr

namespace Square

/-- A round on the four columns. -/
def columnRound (s : Square) : Square :=
  let a := s.a.add s.b
  let d := s.d.mix 16 a
  let c := s.c.add d
  let b := s.b.mix 12 c
  let a := a.add b
  let d := d.mix 8 a
  let c := c.add d
  let b := b.mix 7 c
  ⟨a, b, c, d⟩

/-- A round on the columns and then one on the diagonals. -/
def doubleRound (s : Square) : Square :=
  let s := s.columnRound
  let s := columnRound ⟨s.a, s.b.shift, s.c.shift.shift, s.d.shift.shift.shift⟩
  ⟨s.a, s.b.shift.shift.shift, s.c.shift.shift, s.d.shift⟩

def words (s : Square) : List UInt32 := s.a.words ++ s.b.words ++ s.c.words ++ s.d.words

end Square

/-- A key, as two rows of words. -/
structure Key where
  low : Row
  high : Row
  deriving DecidableEq, Repr

namespace Key

/-- The first row of every block, the text `expand 32-byte k`. -/
def constants : Row := ⟨0x61707865, 0x3320646e, 0x79622d32, 0x6b206574⟩

def block (key : Key) (number : UInt64) : Square :=
  let start : Square :=
    ⟨constants, key.low, key.high, ⟨number.toUInt32, (number >>> 32).toUInt32, 0, 0⟩⟩
  let mixed := start.doubleRound.doubleRound.doubleRound.doubleRound
  ⟨mixed.a.add start.a, mixed.b.add start.b, mixed.c.add start.c, mixed.d.add start.d⟩

def word (key : Key) (position : Nat) : UInt32 :=
  (key.block (UInt64.ofNat (position / 16))).words.getD (position % 16) 0

/-- The number of words after which the stream starts again. -/
def period : Nat := UInt64.size * 16

/-- One step of the generator that a seed is expanded with. -/
def advance (state : UInt64) : UInt64 := state * 6364136223846793005 + 11634580027462260723

/-- The word that a state of that generator gives: some middle bits, turned right by the highest. -/
def output (state : UInt64) : UInt32 :=
  let x := (((state >>> 18) ^^^ state) >>> 27).toUInt32
  let n := (state >>> 59).toUInt32
  x >>> n ||| x <<< (32 - n)

/-- The next four words of a seed's expansion, and the state after them. -/
def nextRow (state : UInt64) : Row × UInt64 :=
  let s0 := advance state
  let s1 := advance s0
  let s2 := advance s1
  let s3 := advance s2
  (⟨output s0, output s1, output s2, output s3⟩, s3)

def ofSeed (seed : UInt64) : Key :=
  let (low, state) := nextRow seed
  let (high, _) := nextRow state
  ⟨low, high⟩

/-- The stream repeats itself. -/
theorem word_add_period (key : Key) (position : Nat) :
    key.word (position + period) = key.word position := by
  have hq : (position + period) / 16 = position / 16 + UInt64.size := by
    simp only [period, UInt64.size]; omega
  have hr : (position + period) % 16 = position % 16 := by
    simp only [period, UInt64.size]; omega
  have hw : UInt64.ofNat (position / 16 + UInt64.size) = UInt64.ofNat (position / 16) := by
    apply UInt64.toNat.inj
    simp
  simp only [word, hq, hr, hw]

end Key

end LargerThanLife.Random
