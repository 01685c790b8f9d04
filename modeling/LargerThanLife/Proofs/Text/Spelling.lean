import LargerThanLife.Text.Blank
import LargerThanLife.Text.Numeral
import LargerThanLife.Text.Pieces
import Mathlib.Data.List.Induction
import Mathlib.Data.List.Forall2

/-! Spellings, said without a reader. A relation tells which texts are decimal digits, unsigned
numerals, a token between blanks, or tokens between separators; and the functions that read a numeral,
trim a text or cut it to pieces meet exactly these relations. Values are not bounded here, so a run of
digits of any length has one. -/

namespace LargerThanLife.Text

/-! ### Numerals -/

namespace Numeral

/-- Decimal digits and the number they stand for; zeros in front change nothing. -/
inductive Digits : List Char → ℕ → Prop
  | one {d : Char} : '0' ≤ d → d ≤ '9' → Digits [d] (d.toNat - '0'.toNat)
  | more {s : List Char} {n : ℕ} {d : Char} : Digits s n → '0' ≤ d → d ≤ '9' →
    Digits (s ++ [d]) (10 * n + (d.toNat - '0'.toNat))

/-- Digits after at most one plus sign. -/
inductive Unsigned : List Char → ℕ → Prop
  | plain {s : List Char} {n : ℕ} : Digits s n → Unsigned s n
  | plus {s : List Char} {n : ℕ} : Digits s n → Unsigned ('+' :: s) n

variable {s : List Char} {n : ℕ}

theorem isDigit_iff {d : Char} : d.isDigit ↔ '0' ≤ d ∧ d ≤ '9' := by
  simp only [Char.isDigit, Bool.and_eq_true, decide_eq_true_eq, ge_iff_le, Char.le_def]

theorem digits_ofDigitChars (nonempty : s ≠ []) (digits : ∀ d ∈ s, d.isDigit) :
    Digits s (Nat.ofDigitChars 10 s 0) := by
  -- the number grows by a digit at the end, so the induction is from there
  induction s using List.reverseRecOn with
  | nil => exact absurd rfl nonempty
  | append_singleton s d ih =>
    obtain ⟨low, high⟩ := isDigit_iff.mp (digits d (by simp))
    rw [Nat.ofDigitChars_append, Nat.ofDigitChars_cons, Nat.ofDigitChars_nil]
    cases s with
    | nil => simpa using Digits.one low high
    | cons c r =>
      have before := ih (List.cons_ne_nil c r) fun e he => digits e (List.mem_append_left [d] he)
      exact .more before low high

namespace Digits

theorem ne_nil (h : Digits s n) : s ≠ [] := by
  cases h <;> simp

theorem isDigit_of_mem (h : Digits s n) : ∀ d ∈ s, d.isDigit := by
  induction h with
  | one low high => simpa using isDigit_iff.mpr ⟨low, high⟩
  | more _ low high ih =>
    intro c hc
    rcases List.mem_append.mp hc with before | last
    · exact ih c before
    · rw [List.mem_singleton.mp last]
      exact isDigit_iff.mpr ⟨low, high⟩

theorem ofDigitChars_eq (h : Digits s n) : Nat.ofDigitChars 10 s 0 = n := by
  induction h with
  | one => simp [Nat.ofDigitChars_cons]
  | more _ _ _ ih => rw [Nat.ofDigitChars_append, ih, Nat.ofDigitChars_cons, Nat.ofDigitChars_nil]

end Digits

theorem readDigits_eq_some_iff : readDigits s = some n ↔ Digits s n := by
  rw [readDigits]
  constructor
  · intro h
    split at h
    · next shape =>
      rw [← Option.some.inj h]
      exact digits_ofDigitChars shape.1 (List.all_eq_true.mp shape.2)
    · cases h
  · intro h
    rw [if_pos ⟨h.ne_nil, List.all_eq_true.mpr h.isDigit_of_mem⟩, h.ofDigitChars_eq]

theorem read_eq_some_iff : read s = some n ↔ Unsigned s n := by
  rw [read, readDigits_eq_some_iff]
  constructor
  · unfold dropPlus
    split
    · exact .plus
    · exact .plain
  · intro h
    cases h with
    | plus digits => exact digits
    | plain digits =>
      -- digits do not begin with a plus sign, so none is dropped
      unfold dropPlus
      split
      · exact absurd (digits.isDigit_of_mem '+' (by simp)) (by decide)
      · exact digits

theorem readUpTo_eq_some_iff {limit : ℕ} :
    readUpTo limit s = some n ↔ Unsigned s n ∧ n ≤ limit := by
  rw [readUpTo, Option.filter_eq_some_iff, read_eq_some_iff, decide_eq_true_eq]

theorem digits_write (n : ℕ) : Digits (write n) n := readDigits_eq_some_iff.mp (readDigits_write n)

theorem Unsigned.dot_not_mem (h : Unsigned s n) : '.' ∉ s := by
  have no_dot {t : List Char} (digits : Digits t n) : '.' ∉ t := fun dot =>
    absurd (digits.isDigit_of_mem '.' dot) (by decide)
  cases h with
  | plain digits => exact no_dot digits
  | plus digits => exact fun dot => no_dot digits (List.mem_of_ne_of_mem (by decide) dot)

end Numeral

/-! ### Tokens between blanks -/

/-- The token is what is left of the piece without the white space at its ends. -/
structure Trimmed (piece token : List Char) : Prop where
  around : ∃ front back, piece = front ++ token ++ back ∧
    (∀ c ∈ front, isBlank c) ∧ ∀ c ∈ back, isBlank c
  first : ∀ c ∈ token.head?, isBlank c = false
  last : ∀ c ∈ token.getLast?, isBlank c = false

theorem isBlank_head?_dropWhile {s : List Char} :
    ∀ c ∈ (s.dropWhile isBlank).head?, isBlank c = false := by
  intro c hc
  have := List.head?_dropWhile_not isBlank s
  rw [Option.mem_def.mp hc] at this
  exact this

theorem trimEnd_append {s : List Char} : ∃ back, s = trimEnd s ++ back ∧ ∀ c ∈ back, isBlank c := by
  refine ⟨(s.reverse.takeWhile isBlank).reverse, ?_, ?_⟩
  · rw [trimEnd, ← List.reverse_append, List.takeWhile_append_dropWhile, List.reverse_reverse]
  · exact fun c hc => List.all_eq_true.mp List.all_takeWhile c (List.mem_reverse.mp hc)

theorem trimmed_trim (piece : List Char) : Trimmed piece (trim piece) := by
  obtain ⟨back, cut, blanks⟩ := trimEnd_append (s := piece.dropWhile isBlank)
  refine ⟨⟨piece.takeWhile isBlank, back, ?_, List.all_eq_true.mp List.all_takeWhile, blanks⟩, ?_, ?_⟩
  · rw [List.append_assoc, trim, ← cut, List.takeWhile_append_dropWhile]
  · intro c hc
    refine isBlank_head?_dropWhile (s := piece) c ?_
    rw [cut]
    exact List.mem_head?_append_of_mem_head? hc
  · intro c hc
    rw [trim, trimEnd, List.getLast?_reverse] at hc
    exact isBlank_head?_dropWhile c hc

theorem Trimmed.trim_eq {piece token : List Char} (h : Trimmed piece token) : trim piece = token := by
  obtain ⟨⟨front, back, rfl, before, after⟩, first, last⟩ := h
  rw [trim, List.append_assoc, List.dropWhile_append_of_pos before]
  have blanks : ∀ d ∈ back.reverse, isBlank d := fun d hd => after d (List.mem_reverse.mp hd)
  cases token with
  | nil => rw [List.nil_append, ← List.append_nil back, List.dropWhile_append_of_pos after]; rfl
  | cons c r =>
    have start : ∀ d ∈ (c :: r ++ back).head?, isBlank d = false := by simpa using first
    have finish : ∀ d ∈ (c :: r).reverse.head?, isBlank d = false := by
      rw [List.head?_reverse]
      exact last
    rw [dropWhile_isBlank_eq_self start, trimEnd, List.reverse_append,
      List.dropWhile_append_of_pos blanks, dropWhile_isBlank_eq_self finish, List.reverse_reverse]

/-! ### Tokens between separators -/

/-- The tokens stand between the separators of the text, each with blanks around it or none. -/
def Tokens (sep : Char) (s : List Char) (tokens : List (List Char)) : Prop :=
  ∃ ps : List (List Char), s = join sep ps ∧ (∀ p ∈ ps, sep ∉ p) ∧ List.Forall₂ Trimmed ps tokens

theorem map_trim_pieces_eq_iff {sep : Char} {s : List Char} {tokens : List (List Char)}
    (some_token : tokens ≠ []) : (pieces sep s).map trim = tokens ↔ Tokens sep s tokens := by
  constructor
  · rintro rfl
    refine ⟨pieces sep s, (join_pieces sep s).symm, fun p => not_mem_of_mem_pieces, ?_⟩
    exact List.forall₂_map_right_iff.mpr (List.forall₂_same.mpr fun p _ => trimmed_trim p)
  · rintro ⟨ps, rfl, whole, trimmed⟩
    have some_piece : ps ≠ [] := by
      rintro rfl
      exact some_token (List.forall₂_nil_left_iff.mp trimmed)
    rw [pieces_join some_piece whole]
    have same : List.Forall₂ (· = ·) (ps.map trim) tokens :=
      List.forall₂_map_left_iff.mpr (trimmed.imp fun _ _ h => h.trim_eq)
    rwa [List.forall₂_eq_eq_eq] at same

end LargerThanLife.Text
