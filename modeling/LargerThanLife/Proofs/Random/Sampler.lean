import LargerThanLife.Random.Integer
import Mathlib.Data.Int.Init
import Mathlib.Tactic.Common

/-! Integers drawn by machine arithmetic. `Sampled` tells in arithmetic of fixed width, which wraps
around and checks nothing, which integer a generator gives for a range: it is found from the first word
that is accepted, however late that comes. The integer lies in the range, and it is the one that is
drawn; so a search through the whole stream loses nothing. -/

namespace LargerThanLife

/-! ### Draws -/

section Draws

variable {α β : Type} {g g' : Generator}

theorem draw_bind_eq_some_iff {x : Draw α} {f : α → Draw β} {r : β × Generator} :
    (x >>= f) g = some r ↔ ∃ a g', x g = some (a, g') ∧ f a g' = some r := by
  change Option.bind (x g) (fun p => f p.1 p.2) = some r ↔ _
  rw [Option.bind_eq_some_iff, Prod.exists]

theorem draw_pure_eq_some_iff {a b : α} :
    (pure a : Draw α) g = some (b, g') ↔ a = b ∧ g = g' := by
  change some (a, g) = some (b, g') ↔ _
  rw [Option.some_inj, Prod.mk.injEq]

end Draws

namespace Random

/-- The number of places of the stream that a word takes. -/
def WordSize.places : WordSize → ℕ
  | single => 1
  | double => 2

/-- The word of a generator that comes after `t` others of its size. -/
def wordAt (w : WordSize) (g : Generator) (t : ℕ) : Fin w.count :=
  match w with
  | .single => ⟨(g.skip (t * 1)).next32.1.toNat, UInt32.toNat_lt _⟩
  | .double => ⟨(g.skip (t * 2)).next64.1.toNat, UInt64.toNat_lt _⟩

namespace IntKind

/-- What arithmetic of fixed width makes of an integer: its lower bits, as an integer of the kind. -/
def wrap (k : IntKind) (n : ℤ) : ℤ :=
  if k.signed then (BitVec.ofInt k.bits n).toInt else (BitVec.ofInt k.bits n).toNat

/-- The number of values of a range, in arithmetic of fixed width. -/
def extent (k : IntKind) (low high : ℤ) : ℕ := (BitVec.ofInt k.bits (high - low + 1)).toNat

/-- The word is accepted for a range of `n` values. -/
def Accepts (k : IntKind) (n : ℕ) (word : Fin k.wordSize.count) : Prop :=
  word * n % k.wordSize.count ≤ k.zone n

instance (k : IntKind) (n : ℕ) (word : Fin k.wordSize.count) : Decidable (k.Accepts n word) :=
  inferInstanceAs (Decidable (_ ≤ _))

/-- The word after `t` others is the first one that is accepted. -/
def FirstAccepted (k : IntKind) (n : ℕ) (g : Generator) (t : ℕ) : Prop :=
  (∀ s < t, ¬k.Accepts n (wordAt k.wordSize g s)) ∧ k.Accepts n (wordAt k.wordSize g t)

/-- The upper half of the product of a word and a number of values. -/
def upperHalf (k : IntKind) (n : ℕ) (word : Fin k.wordSize.count) : ℕ := word * n / k.wordSize.count

/-- The value that a word gives for a range, unless it is rejected. -/
def valueOf (k : IntKind) (low high : ℤ) (word : Fin k.wordSize.count) : Option ℤ :=
  if k.extent low high = 0 then some (k.wrap word)
  else if k.Accepts (k.extent low high) word then
    some (k.wrap (low + k.upperHalf (k.extent low high) word))
  else none

end IntKind

/-- The generator `g` gives the integer `v` for a range, and is `g'` afterwards. -/
inductive Sampled (k : IntKind) (low high : ℤ) (g : Generator) : ℤ → Generator → Prop
  /-- the range has all values of its kind, which are too many to be counted -/
  | whole : k.extent low high = 0 →
    Sampled k low high g (k.wrap (wordAt k.wordSize g 0)) (g.skip k.wordSize.places)
  /-- the first word that is accepted comes after `t` others -/
  | first (t : ℕ) : k.extent low high ≠ 0 → k.FirstAccepted (k.extent low high) g t →
    Sampled k low high g
      (k.wrap (low + k.upperHalf (k.extent low high) (wordAt k.wordSize g t)))
      (g.skip ((t + 1) * k.wordSize.places))

variable {k : IntKind} {low high v : ℤ} {g g' : Generator}

/-! ### In range -/

theorem wrap_natCast (k : IntKind) (n : ℕ) : k.wrap n = k.ofWord n := by
  rw [IntKind.wrap, IntKind.ofWord, BitVec.ofInt_natCast]

theorem wrap_eq_self (above : k.min ≤ v) (below : v ≤ k.max) : k.wrap v = v := by
  have size := k.two_mul_shiftLeft
  unfold IntKind.min at above
  unfold IntKind.max at below
  unfold IntKind.wrap
  simp only [Nat.one_shiftLeft] at size above below
  split
  · next signed =>
    rw [if_pos signed] at above below
    rw [BitVec.toInt_ofInt]
    exact Int.bmod_eq_of_le_mul_two (by omega) (by omega)
  · next unsigned =>
    rw [if_neg unsigned] at above below
    rw [BitVec.toNat_ofInt, Int.emod_eq_of_lt above (by omega), Int.toNat_of_nonneg above]

theorem extent_eq (ordered : low ≤ high) :
    k.extent low high = (high - low + 1).toNat % (1 <<< k.bits) := by
  rw [IntKind.extent, BitVec.toNat_ofInt, Int.toNat_emod (by omega) (Int.natCast_nonneg _),
    Int.toNat_natCast, Nat.one_shiftLeft]

theorem upperHalf_lt {n : ℕ} (pos : 0 < n) (word : Fin k.wordSize.count) : k.upperHalf n word < n :=
  Nat.div_lt_of_lt_mul (Nat.mul_lt_mul_of_pos_right word.isLt pos)

theorem add_upperHalf_le (ordered : low ≤ high) (counted : k.extent low high ≠ 0)
    (word : Fin k.wordSize.count) : low + k.upperHalf (k.extent low high) word ≤ high := by
  have place_lt := upperHalf_lt (Nat.pos_of_ne_zero counted) word
  have extent_le : k.extent low high ≤ (high - low + 1).toNat := by
    rw [extent_eq ordered]
    exact Nat.mod_le _ _
  omega

/-- The sum that gives an integer of the range does not wrap around. -/
theorem wrap_add_upperHalf (ordered : low ≤ high) (low_fits : k.min ≤ low) (high_fits : high ≤ k.max)
    (counted : k.extent low high ≠ 0) (word : Fin k.wordSize.count) :
    k.wrap (low + k.upperHalf (k.extent low high) word) =
      low + k.upperHalf (k.extent low high) word := by
  have le := add_upperHalf_le ordered counted word
  exact wrap_eq_self (by omega) (by omega)

section Word

variable {word : Fin k.wordSize.count}

theorem valueOf_of_full (full : k.extent low high = 0) :
    k.valueOf low high word = some (k.wrap word) := if_pos full

theorem valueOf_eq_none_iff (counted : k.extent low high ≠ 0) :
    k.valueOf low high word = none ↔ ¬k.Accepts (k.extent low high) word := by
  rw [IntKind.valueOf, if_neg counted]
  split <;> simp [*]

theorem valueOf_eq_some_iff (counted : k.extent low high ≠ 0) :
    k.valueOf low high word = some v ↔
      k.Accepts (k.extent low high) word ∧
        k.wrap (low + k.upperHalf (k.extent low high) word) = v := by
  rw [IntKind.valueOf, if_neg counted]
  split <;> simp [*]

/-- No check is needed to keep the value of a word in the range. -/
theorem valueOf_in_range (ordered : low ≤ high) (low_fits : k.min ≤ low) (high_fits : high ≤ k.max)
    (given : k.valueOf low high word = some v) : low ≤ v ∧ v ≤ high := by
  by_cases full : k.extent low high = 0
  · rw [valueOf_of_full full, Option.some_inj] at given
    rw [extent_eq ordered] at full
    obtain ⟨rfl, rfl⟩ := k.range_full ordered low_fits high_fits full
    rw [← given, wrap_natCast]
    exact ⟨k.min_le_ofWord _, k.ofWord_le_max _⟩
  · obtain ⟨-, rfl⟩ := (valueOf_eq_some_iff full).mp given
    have le := add_upperHalf_le ordered full word
    rw [wrap_add_upperHalf ordered low_fits high_fits full]
    omega

end Word

theorem Sampled.in_range (sampled : Sampled k low high g v g') (ordered : low ≤ high)
    (low_fits : k.min ≤ low) (high_fits : high ≤ k.max) : low ≤ v ∧ v ≤ high := by
  cases sampled with
  | whole full => exact valueOf_in_range ordered low_fits high_fits (valueOf_of_full full)
  | first t counted first =>
    have given := (valueOf_eq_some_iff counted).mpr ⟨first.2, rfl⟩
    exact valueOf_in_range ordered low_fits high_fits given

/-! ### The words of the stream -/

theorem drawWord_skip (w : WordSize) (g : Generator) (t : ℕ) :
    drawWord w (g.skip (t * w.places)) = some (wordAt w g t, g.skip ((t + 1) * w.places)) := by
  cases w with
  | single =>
    simp [drawWord, wordAt, WordSize.places, Generator.next32]
  | double =>
    simp [drawWord, wordAt, WordSize.places, Generator.next64, Nat.add_mul]

theorem drawWord_eq (w : WordSize) (g : Generator) :
    drawWord w g = some (wordAt w g 0, g.skip w.places) := by
  have first := drawWord_skip w g 0
  rwa [Nat.zero_mul, Nat.zero_add, Nat.one_mul] at first

theorem peek_add_period (g : Generator) (ahead : ℕ) : g.peek (ahead + Key.period) = g.peek ahead := by
  rw [Generator.peek, ← Nat.add_assoc, Key.word_add_period, Generator.peek]

/-- A word that ever comes is among the first ones. -/
theorem wordAt_add_period (w : WordSize) (g : Generator) (t : ℕ) :
    wordAt w g (t + Key.period) = wordAt w g t := by
  cases w with
  | single =>
    simp only [wordAt, Generator.next32, Generator.peek_skip, Nat.mul_one, Nat.add_zero,
      peek_add_period]
  | double =>
    have twice (i : ℕ) : g.peek ((t + Key.period) * 2 + i) = g.peek (t * 2 + i) := by
      rw [show (t + Key.period) * 2 + i = t * 2 + i + Key.period + Key.period by omega,
        peek_add_period, peek_add_period]
    simp only [wordAt, Generator.next64, Generator.peek_skip, twice]

/-! ### The search -/

variable {n : ℕ}

theorem place_eq_none (h : 0 < n) {word : Fin k.wordSize.count} (rejected : ¬k.Accepts n word) :
    place h (k.zone n) word = none :=
  if_neg rejected

theorem place_eq_some (h : 0 < n) {word : Fin k.wordSize.count} (accepted : k.Accepts n word) :
    place h (k.zone n) word = some ⟨k.upperHalf n word, upperHalf_lt h word⟩ :=
  if_pos accepted

theorem IntKind.FirstAccepted.eq {t u : ℕ} (first : k.FirstAccepted n g t)
    (first' : k.FirstAccepted n g u) : t = u := by
  rcases Nat.lt_trichotomy t u with before | same | after
  · exact absurd first.2 (first'.1 t before)
  · exact same
  · exact absurd first'.2 (first.1 u after)

/-- A search that goes on after `t` words that are not accepted finds the first one that is, if it has
enough tries for that. -/
theorem search_eq_some_iff (h : 0 < n) {i : Fin n} {tries t : ℕ}
    (rejected : ∀ s < t, ¬k.Accepts n (wordAt k.wordSize g s)) :
    search (w := k.wordSize) h (k.zone n) tries (g.skip (t * k.wordSize.places)) = some (i, g') ↔
      ∃ u < t + tries, k.FirstAccepted n g u ∧ k.upperHalf n (wordAt k.wordSize g u) = i ∧
        g.skip ((u + 1) * k.wordSize.places) = g' := by
  induction tries generalizing t with
  | zero =>
    refine ⟨(nomatch ·), ?_⟩
    rintro ⟨u, before, first, -⟩
    exact absurd first.2 (rejected u before)
  | succ tries ih =>
    rw [search, draw_bind_eq_some_iff]
    simp only [drawWord_skip, Option.some_inj, Prod.mk.injEq]
    by_cases accepted : k.Accepts n (wordAt k.wordSize g t)
    · have first : k.FirstAccepted n g t := ⟨rejected, accepted⟩
      constructor
      · rintro ⟨_, _, ⟨rfl, rfl⟩, found⟩
        rw [place_eq_some h accepted, draw_pure_eq_some_iff, Fin.ext_iff] at found
        exact ⟨t, by omega, first, found⟩
      · rintro ⟨u, -, first', place_eq, after⟩
        obtain rfl := first.eq first'
        refine ⟨_, _, ⟨rfl, rfl⟩, ?_⟩
        rw [place_eq_some h accepted, draw_pure_eq_some_iff, Fin.ext_iff]
        exact ⟨place_eq, after⟩
    · have rejected' : ∀ s < t + 1, ¬k.Accepts n (wordAt k.wordSize g s) := by
        intro s before
        rcases Nat.lt_succ_iff_lt_or_eq.mp before with earlier | rfl
        · exact rejected s earlier
        · exact accepted
      have rest := ih rejected'
      rw [show t + 1 + tries = t + (tries + 1) by omega] at rest
      rw [← rest]
      constructor
      · rintro ⟨_, _, ⟨rfl, rfl⟩, found⟩
        rwa [place_eq_none h accepted] at found
      · intro found
        refine ⟨_, _, ⟨rfl, rfl⟩, ?_⟩
        rwa [place_eq_none h accepted]

theorem drawPlace_eq_some_iff (h : 0 < n) {i : Fin n} :
    drawPlace k h g = some (i, g') ↔
      ∃ t, k.FirstAccepted n g t ∧ k.upperHalf n (wordAt k.wordSize g t) = i ∧
        g.skip ((t + 1) * k.wordSize.places) = g' := by
  have start : g = g.skip (0 * k.wordSize.places) := by rw [Nat.zero_mul]; rfl
  rw [drawPlace]
  nth_rewrite 1 [start]
  rw [search_eq_some_iff h (fun s before => absurd before (Nat.not_lt_zero s))]
  constructor
  · rintro ⟨t, -, first⟩
    exact ⟨t, first⟩
  · rintro ⟨t, first, place_eq, after⟩
    refine ⟨t, ?_, first, place_eq, after⟩
    -- a word that comes after a whole period has come before
    by_contra late
    have again := wordAt_add_period k.wordSize g (t - Key.period)
    rw [Nat.sub_add_cancel (by omega)] at again
    have period_pos : 0 < Key.period := by decide
    exact first.1 (t - Key.period) (by omega) (again ▸ first.2)

/-- The integer that is drawn is the one that machine arithmetic gives. -/
theorem drawBetween_eq_some_iff (ordered : low ≤ high) (low_fits : k.min ≤ low)
    (high_fits : high ≤ k.max) {r : { v : ℤ // low ≤ v ∧ v ≤ high }} :
    drawBetween k low high ordered low_fits high_fits g = some (r, g') ↔
      Sampled k low high g r g' := by
  have extent_eq := extent_eq (k := k) ordered
  obtain ⟨v, in_range⟩ := r
  simp only [drawBetween]
  split
  · next full =>
    have whole : Sampled k low high g _ _ := .whole (extent_eq.trans full)
    simp only [draw_bind_eq_some_iff, drawWord_eq, draw_pure_eq_some_iff, Option.some_inj,
      Prod.mk.injEq, Subtype.mk.injEq]
    constructor
    · rintro ⟨_, _, ⟨rfl, rfl⟩, rfl, rfl⟩
      rwa [wrap_natCast] at whole
    · intro sampled
      cases sampled with
      | whole => exact ⟨_, _, ⟨rfl, rfl⟩, (wrap_natCast k _).symm, rfl⟩
      | first t counted => exact absurd (extent_eq.trans full) counted
  · next counted =>
    simp only [draw_bind_eq_some_iff, drawPlace_eq_some_iff, draw_pure_eq_some_iff, Subtype.mk.injEq]
    generalize (high - low + 1).toNat % 1 <<< k.bits = n at *
    subst extent_eq
    have unwrapped := wrap_add_upperHalf ordered low_fits high_fits counted
    constructor
    · rintro ⟨i, _, ⟨t, first, place_eq, rfl⟩, rfl, rfl⟩
      rw [← place_eq, ← unwrapped]
      exact .first t counted first
    · intro sampled
      cases sampled with
      | whole full => exact absurd full counted
      | first t _ first =>
        exact ⟨⟨_, upperHalf_lt (Nat.pos_of_ne_zero counted) (wordAt k.wordSize g t)⟩, _,
          ⟨t, first, rfl, rfl⟩, (unwrapped _).symm, rfl⟩

end Random

end LargerThanLife
