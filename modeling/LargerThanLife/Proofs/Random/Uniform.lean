import LargerThanLife.Proofs.Random.Ruleset
import Mathlib.Algebra.BigOperators.Fin
import Mathlib.Data.Int.CardIntervalMod

/-! How the words of a stream are shared out among the values of a range. A word is rejected or gives one
value, whose place in the range is the quotient of a product by the number `W` of words. The products with
one quotient are the multiples of the number `n` of values in an interval of `W` numbers; those that are
accepted lie at its beginning, where the remainder is below a multiple `n * q` of `n`. As many numbers in
sequence hold `q` multiples of `n` wherever they begin. So every value is given by `q` words, although the
multiples fall differently in each interval. A range of all values of its kind takes the lower bits of a
word, which are the same for equally many words. Words are counted here; nothing is said about how often a
stream holds each of them. -/

namespace LargerThanLife

namespace Random

/-! ### Counting -/

theorem one_shiftLeft_pos (bits : ℕ) : 0 < 1 <<< bits := by
  rw [Nat.one_shiftLeft]
  exact Nat.two_pow_pos bits

theorem card_filter_val (count : ℕ) (p : ℕ → Prop) [DecidablePred p] :
    (Finset.univ.filter fun i : Fin count => p i).card = Nat.count p count := by
  rw [Nat.count_eq_card_filter_range, Finset.card_filter, Finset.card_filter]
  exact Fin.sum_univ_eq_sum_range (fun i => if p i then 1 else 0) count

/-- The factors of the multiples of `n` among `n * q` numbers in sequence are themselves in sequence. -/
theorem mem_factors_iff {n q start m : ℕ} (positive : 0 < n) :
    m ∈ Finset.Ico ((start + (n - 1)) / n) ((start + (n - 1)) / n + q) ↔
      start ≤ m * n ∧ m * n < start + n * q := by
  rw [Finset.mem_Ico, ← Nat.lt_succ_iff, Nat.div_lt_iff_lt_mul positive, Nat.succ_mul,
    ← Nat.add_mul_div_left _ _ positive, Nat.lt_iff_add_one_le (m := m),
    Nat.le_div_iff_mul_le positive, Nat.succ_mul]
  omega

theorem quotient_and_remainder_iff {W n q i m : ℕ} (room : 0 < W) (fits : n * q ≤ W) :
    m * n / W = i ∧ m * n % W < n * q ↔ i * W ≤ m * n ∧ m * n < i * W + n * q := by
  have split := Nat.div_add_mod' (m * n) W
  constructor
  · rintro ⟨rfl, accepted⟩
    omega
  · rintro ⟨above, below⟩
    have quotient : m * n / W = i := (Nat.div_eq_iff room).mpr (by omega)
    rw [quotient] at split
    omega

/-- Every quotient belongs to equally many words whose remainder is below a multiple of `n`. -/
theorem count_place {W n q i : ℕ} (room : 0 < W) (positive : 0 < n) (fits : n * q ≤ W)
    (inside : i < n) : Nat.count (fun m => m * n / W = i ∧ m * n % W < n * q) W = q := by
  have words : (Finset.range W).filter (fun m => m * n / W = i ∧ m * n % W < n * q) =
      Finset.Ico ((i * W + (n - 1)) / n) ((i * W + (n - 1)) / n + q) := by
    ext m
    rw [Finset.mem_filter, mem_factors_iff positive, quotient_and_remainder_iff room fits,
      Finset.mem_range, and_iff_right_iff_imp]
    rintro ⟨-, below⟩
    -- the interval of the greatest quotient ends where the products of words do
    have last : (i + 1) * W ≤ n * W := Nat.mul_le_mul_right W inside
    rw [Nat.succ_mul] at last
    refine Nat.lt_of_mul_lt_mul_left (a := n) ?_
    rw [Nat.mul_comm n m]
    omega
  rw [Nat.count_eq_card_filter_range, words, Nat.card_Ico, Nat.add_sub_cancel_left]

/-! ### Shares -/

namespace IntKind

variable {k : IntKind} {low high v : ℤ} {word : Fin k.wordSize.count}

/-- The words that give a value. -/
def wordsFor (k : IntKind) (low high v : ℤ) : Finset (Fin k.wordSize.count) :=
  Finset.univ.filter fun word => k.valueOf low high word = some v

/-- The number of words for each value of a range. -/
def share (k : IntKind) (low high : ℤ) : ℕ :=
  let n := k.extent low high
  if n = 0 then 1 <<< (k.wordSize.bits - k.bits)
  else if k.bits ≤ 16 then k.wordSize.count / n
  else 1 <<< (k.wordSize.bits - 1 - n.log2)

/-- The integer that a generator gives is that of the first word that is not rejected. -/
theorem sampled_iff {g g' : Generator} : Sampled k low high g v g' ↔
    ∃ t, (∀ s < t, k.valueOf low high (wordAt k.wordSize g s) = none) ∧
      k.valueOf low high (wordAt k.wordSize g t) = some v ∧
      g.skip ((t + 1) * k.wordSize.places) = g' := by
  by_cases full : k.extent low high = 0
  · simp only [valueOf_of_full full, Option.some_inj]
    constructor
    · intro sampled
      cases sampled with
      | whole => exact ⟨0, fun s before => absurd before (Nat.not_lt_zero s), rfl, by rw [Nat.one_mul]⟩
      | first t counted => exact absurd full counted
    · rintro ⟨t, rejected, rfl, rfl⟩
      obtain rfl : t = 0 := by
        by_contra later
        exact absurd (rejected 0 (Nat.pos_of_ne_zero later)) (Option.some_ne_none _)
      rw [Nat.zero_add, Nat.one_mul]
      exact .whole full
  · simp only [valueOf_eq_none_iff full, valueOf_eq_some_iff full]
    constructor
    · intro sampled
      cases sampled with
      | whole full' => exact absurd full' full
      | first t counted first => exact ⟨t, first.1, ⟨first.2, rfl⟩, rfl⟩
    · rintro ⟨t, rejected, ⟨accepted, rfl⟩, rfl⟩
      exact .first t full ⟨rejected, accepted⟩

/-! ### Ranges that are counted -/

theorem extent_lt_count (low high : ℤ) (narrow : k.bits ≤ k.wordSize.bits) :
    k.extent low high < k.wordSize.count := by
  have le : 1 <<< k.bits ≤ k.wordSize.count := by
    rw [WordSize.count, Nat.one_shiftLeft, Nat.one_shiftLeft]
    exact Nat.pow_le_pow_right Nat.two_pos narrow
  have lt := (BitVec.ofInt k.bits (high - low + 1)).isLt
  rw [← Nat.one_shiftLeft] at lt
  exact lt.trans_le le

theorem mul_share_le (counted : k.extent low high ≠ 0) (narrow : k.bits ≤ k.wordSize.bits) :
    k.extent low high * k.share low high ≤ k.wordSize.count := by
  have few := extent_lt_count low high narrow
  simp only [share, if_neg counted]
  generalize k.extent low high = n at *
  split
  · exact Nat.mul_div_le _ _
  · rw [WordSize.count, Nat.one_shiftLeft] at few ⊢
    have exponent : n.log2 < k.wordSize.bits := (Nat.log2_lt counted).mpr few
    refine (Nat.mul_le_mul_right _ Nat.lt_log2_self.le).trans_eq ?_
    rw [Nat.one_shiftLeft, ← Nat.pow_add]
    congr 1
    omega

/-- The words that are accepted are those with a remainder below a multiple of the number of values. -/
theorem accepts_iff (counted : k.extent low high ≠ 0) (narrow : k.bits ≤ k.wordSize.bits) :
    k.Accepts (k.extent low high) word ↔
      word * k.extent low high % k.wordSize.count < k.extent low high * k.share low high := by
  have few := extent_lt_count low high narrow
  simp only [Accepts, zone, share, if_neg counted]
  generalize k.extent low high = n at *
  have positive := Nat.pos_of_ne_zero counted
  split
  · have small := Nat.mod_lt k.wordSize.count positive
    have whole := Nat.div_add_mod k.wordSize.count n
    rw [← Nat.mod_eq_sub_mod few.le]
    omega
  · have some_left := Nat.mul_pos positive (one_shiftLeft_pos (k.wordSize.bits - 1 - n.log2))
    rw [Nat.shiftLeft_eq, ← Nat.one_shiftLeft]
    omega

/-! ### Ranges of all values of a kind -/

theorem wrap_eq_wrap_iff (k : IntKind) (a b : ℤ) :
    k.wrap a = k.wrap b ↔ a % (1 <<< k.bits : ℕ) = b % (1 <<< k.bits : ℕ) := by
  have room := one_shiftLeft_pos k.bits
  have left := Int.emod_nonneg a (b := (1 <<< k.bits : ℕ)) (by omega)
  have right := Int.emod_nonneg b (b := (1 <<< k.bits : ℕ)) (by omega)
  have lower : BitVec.ofInt k.bits a = BitVec.ofInt k.bits b ↔
      a % (1 <<< k.bits : ℕ) = b % (1 <<< k.bits : ℕ) := by
    rw [← BitVec.toNat_inj, BitVec.toNat_ofInt, BitVec.toNat_ofInt, ← Nat.one_shiftLeft]
    omega
  unfold wrap
  split
  · rw [BitVec.toInt_inj, lower]
  · rw [Int.natCast_inj, BitVec.toNat_inj, lower]

/-- The words are as many as those for each value, taken for all values of the kind. -/
theorem words_mul_values (narrow : k.bits ≤ k.wordSize.bits) :
    1 <<< (k.wordSize.bits - k.bits) * 1 <<< k.bits = k.wordSize.count := by
  rw [WordSize.count, Nat.one_shiftLeft, Nat.one_shiftLeft, Nat.one_shiftLeft, ← Nat.pow_add,
    Nat.sub_add_cancel narrow]

theorem count_wrap (narrow : k.bits ≤ k.wordSize.bits) (above : k.min ≤ v) (below : v ≤ k.max) :
    Nat.count (fun m => k.wrap m = v) k.wordSize.count = 1 <<< (k.wordSize.bits - k.bits) := by
  have room := one_shiftLeft_pos k.bits
  have lower (m : ℕ) : k.wrap m = v ↔ m ≡ (v % (1 <<< k.bits : ℕ)).toNat [MOD 1 <<< k.bits] := by
    have nonneg := Int.emod_nonneg v (b := (1 <<< k.bits : ℕ)) (by omega)
    have small := Int.emod_lt_of_pos v (b := (1 <<< k.bits : ℕ)) (by omega)
    rw [← wrap_eq_self above below, wrap_eq_wrap_iff, wrap_eq_self above below, Nat.ModEq,
      Nat.mod_eq_of_lt (a := Int.toNat _) (by omega)]
    omega
  simp only [lower]
  rw [Nat.count_modEq_card _ room, ← words_mul_values narrow, Nat.mul_mod_left, if_neg (Nat.not_lt_zero _),
    Nat.mul_div_cancel _ room, Nat.add_zero]

/-! ### Every range -/

/-- Each value of a range is given by some word. -/
theorem share_pos (narrow : k.bits ≤ k.wordSize.bits) : 0 < k.share low high := by
  have few := extent_lt_count low high narrow
  simp only [share]
  split
  · exact one_shiftLeft_pos _
  · next counted =>
    split
    · exact Nat.div_pos few.le (Nat.pos_of_ne_zero counted)
    · exact one_shiftLeft_pos _

theorem bits_le_wordSize (le : k.bits ≤ 64) : k.bits ≤ k.wordSize.bits := by
  unfold wordSize
  split
  · next few => exact few
  · exact le

theorem count_wordSize_of_small (small : k.bits ≤ 16) : k.wordSize.count = UInt32.size := by
  rw [wordSize, if_pos (by omega)]
  rfl

section Range

variable (narrow : k.bits ≤ k.wordSize.bits) (ordered : low ≤ high) (low_fits : k.min ≤ low)
  (high_fits : high ≤ k.max)

include ordered low_fits high_fits

theorem toNat_le_of_fits : (high - low + 1).toNat ≤ 1 <<< k.bits := by
  have size := k.max_sub_min
  omega

theorem extent_of_counted (counted : k.extent low high ≠ 0) :
    k.extent low high = (high - low + 1).toNat := by
  have le := toNat_le_of_fits ordered low_fits high_fits
  rw [extent_eq ordered] at counted ⊢
  refine Nat.mod_eq_of_lt (lt_of_le_of_ne le fun same => counted ?_)
  rw [same, Nat.mod_self]

include narrow in
/-- Every value of a range is given by equally many words. -/
theorem card_wordsFor (above : low ≤ v) (below : v ≤ high) :
    (k.wordsFor low high v).card = k.share low high := by
  by_cases full : k.extent low high = 0
  · have share_eq : k.share low high = 1 <<< (k.wordSize.bits - k.bits) := if_pos full
    simp only [wordsFor, valueOf_of_full full, Option.some_inj]
    rw [share_eq, card_filter_val k.wordSize.count fun m => k.wrap m = v]
    exact count_wrap narrow (low_fits.trans above) (below.trans high_fits)
  · have values := extent_of_counted ordered low_fits high_fits full
    have place (word : Fin k.wordSize.count) : k.valueOf low high word = some v ↔
        word * k.extent low high / k.wordSize.count = (v - low).toNat ∧
          word * k.extent low high % k.wordSize.count < k.extent low high * k.share low high := by
      rw [valueOf_eq_some_iff full, accepts_iff full narrow,
        wrap_add_upperHalf ordered low_fits high_fits full, upperHalf]
      omega
    simp only [wordsFor, place]
    rw [card_filter_val k.wordSize.count fun m =>
      m * k.extent low high / k.wordSize.count = (v - low).toNat ∧
        m * k.extent low high % k.wordSize.count < k.extent low high * k.share low high]
    exact count_place (one_shiftLeft_pos _) (Nat.pos_of_ne_zero full) (mul_share_le full narrow) (by omega)

/-- Of the small kinds as many words are accepted as can be. -/
theorem share_of_small (small : k.bits ≤ 16) :
    k.share low high = UInt32.size / (high - low + 1).toNat := by
  have words := count_wordSize_of_small small
  have narrow : k.bits ≤ k.wordSize.bits := bits_le_wordSize (by omega)
  by_cases full : k.extent low high = 0
  · have le := toNat_le_of_fits ordered low_fits high_fits
    have size : (high - low + 1).toNat = 1 <<< k.bits := by
      rw [extent_eq ordered] at full
      exact le.antisymm (Nat.le_of_dvd (by omega) (Nat.dvd_of_mod_eq_zero full))
    rw [share, if_pos full, size, ← words, ← words_mul_values narrow,
      Nat.mul_div_cancel _ (one_shiftLeft_pos _)]
  · simp only [share, if_neg full, if_pos small]
    rw [words, extent_of_counted ordered low_fits high_fits full]

end Range

end IntKind

/-- Every word of 32 bits is rejected or gives a value of the range, and every value of the range is given
by `share` words, which is not zero. -/
structure SharedEvenly (k : IntKind) (low high : ℤ) (share : ℕ) : Prop where
  words : k.wordSize.count = UInt32.size
  in_range : ∀ word v, k.valueOf low high word = some v → low ≤ v ∧ v ≤ high
  card_wordsFor : ∀ v, low ≤ v → v ≤ high → (k.wordsFor low high v).card = share
  share_pos : 0 < share

theorem sharedEvenly_of_small {k : IntKind} {low high : ℤ} (small : k.bits ≤ 16) (ordered : low ≤ high)
    (low_fits : k.min ≤ low) (high_fits : high ≤ k.max) :
    SharedEvenly k low high (UInt32.size / (high - low + 1).toNat) := by
  have narrow : k.bits ≤ k.wordSize.bits := IntKind.bits_le_wordSize (by omega)
  rw [← IntKind.share_of_small ordered low_fits high_fits small]
  exact {
    words := IntKind.count_wordSize_of_small small
    in_range := fun word v => valueOf_in_range ordered low_fits high_fits
    card_wordsFor := fun v => IntKind.card_wordsFor narrow ordered low_fits high_fits
    share_pos := IntKind.share_pos narrow }

/-! ### Coins -/

/-- How a fair coin falls for a word. -/
def coinOf (word : Fin WordSize.double.count) : Bool := word.val < 1 <<< 63

theorem toss_half_eq (g : Generator) :
    toss .half g = (coinOf (wordAt .double g 0), g.skip WordSize.double.places) := rfl

/-- A coin is a range of two values of which no word is rejected. -/
theorem coinOf_eq_iff {word : Fin WordSize.double.count} {side : Bool} :
    coinOf word = side ↔
      word * 2 / WordSize.double.count = (!side).toNat ∧
        word * 2 % WordSize.double.count < 2 * 1 <<< 63 := by
  have twice : WordSize.double.count = 2 * 1 <<< 63 := rfl
  have bound := word.isLt
  rw [quotient_and_remainder_iff (one_shiftLeft_pos _) twice.ge]
  simp only [WordSize.bits] at bound ⊢
  cases side with
  | false =>
    rw [coinOf, decide_eq_false_iff_not, Bool.not_false, Bool.toNat_true]
    omega
  | true =>
    rw [coinOf, decide_eq_true_eq, Bool.not_true, Bool.toNat_false]
    omega

theorem card_coinOf (side : Bool) :
    (Finset.univ.filter fun word => coinOf word = side).card = 1 <<< 63 := by
  simp only [coinOf_eq_iff]
  rw [card_filter_val _ fun m => m * 2 / WordSize.double.count = (!side).toNat ∧
    m * 2 % WordSize.double.count < 2 * 1 <<< 63]
  exact count_place (one_shiftLeft_pos _) Nat.two_pos (Nat.le_refl _) (Bool.toNat_lt _)

end Random

open LargerThanLife.Random

/-- The numbers of a ruleset are drawn one after another, each from a range of its own, as the value that
the first word gives which is not rejected; and in every one of these ranges each value is given by the
same number of words of 32 bits. A flag and a shape are the fall of a coin, which half of the words of 64
bits give each side. -/
theorem ruleset_drawn_evenly :
    (∀ g c g', Configuration.draw g = some (c, g') ↔ Drawn g c.values g') ∧
      (∀ k low high g v g', Sampled k low high g v g' ↔
        ∃ t, (∀ s < t, k.valueOf low high (wordAt k.wordSize g s) = none) ∧
          k.valueOf low high (wordAt k.wordSize g t) = some v ∧
          g.skip ((t + 1) * k.wordSize.places) = g') ∧
      SharedEvenly .byte 1 10 (UInt32.size / 10) ∧
      SharedEvenly .byte 0 25 (UInt32.size / 26) ∧
      SharedEvenly .count 0 65535 (UInt32.size / 65536) ∧
      (∀ min : UInt16, SharedEvenly .count min.toNat 65535 (UInt32.size / (65536 - min.toNat))) ∧
      (∀ g, toss .half g = (coinOf (wordAt .double g 0), g.skip WordSize.double.places)) ∧
      ∀ side, (Finset.univ.filter fun word => coinOf word = side).card = 1 <<< 63 := by
  refine ⟨fun _ _ _ => Configuration.draw_eq_some_iff, fun _ _ _ _ _ _ => IntKind.sampled_iff, ?_, ?_, ?_,
    fun min => ?_, toss_half_eq, card_coinOf⟩
  · exact sharedEvenly_of_small (by decide) (by decide) (by decide) (by decide)
  · exact sharedEvenly_of_small (by decide) (by decide) (by decide) (by decide)
  · exact sharedEvenly_of_small (by decide) (by decide) (by decide) (by decide)
  · have lt := min.toNat_lt
    have even : SharedEvenly .count min.toNat 65535
        (UInt32.size / ((65535 : ℤ) - min.toNat + 1).toNat) :=
      sharedEvenly_of_small (by decide) (by omega) (by simp) (by decide)
    rwa [show ((65535 : ℤ) - min.toNat + 1).toNat = 65536 - min.toNat by omega] at even

end LargerThanLife
