import LargerThanLife.Json.Record
import LargerThanLife.Proofs.Outcome
import Mathlib.Data.List.TakeDrop

/-! Written JSON strings and integers, read back with whatever stands behind them. A string ends at its
own quote, so anything may follow; an integer ends where its digits do, so what follows must not go on
with the number. Every character of a string and every integer of 64 bits comes back as it was. -/

namespace LargerThanLife.Json

open Text

/-! ### Strings -/

theorem hexValue_hexDigit {n : Nat} (h : n < 16) : hexValue (hexDigit n) = some n := by
  revert n
  decide

theorem readHex_digits {h l : Nat} (high : h < 16) (low : l < 16) (rest : List Char) :
    readHex ('0' :: '0' :: hexDigit h :: hexDigit l :: rest) = .ok (h * 16 + l, rest) := by
  have zero : hexValue '0' = some 0 := by decide
  simp [readHex, hexValue_hexDigit high, hexValue_hexDigit low, zero]

/-- The number of a control character is too small for a surrogate. -/
theorem not_surrogate_of_lt {n : Nat} (control : n < 0x20) :
    isHighSurrogate n = false ∧ isLowSurrogate n = false := by
  simp only [isHighSurrogate, isLowSurrogate, Bool.and_eq_false_iff, decide_eq_false_iff_not]
  omega

/-- A character is written after a backslash, or as a number, or as it is. -/
theorem escape_cases (c : Char) :
    (∃ e, escape c = ['\\', e] ∧ e ≠ 'u' ∧ shortEscape e = some c) ∨
      (escape c = ['\\', 'u', '0', '0', hexDigit (c.toNat / 16), hexDigit (c.toNat % 16)] ∧
        c.toNat < 0x20) ∨
      (escape c = [c] ∧ c ≠ '"' ∧ c ≠ '\\' ∧ ¬c.toNat < 0x20) := by
  unfold escape
  -- seven characters have a letter of their own
  iterate 7
    split
    · next h => exact .inl ⟨_, rfl, by decide, by rw [h]; rfl⟩
  split
  · next control => exact .inr (.inl ⟨rfl, control⟩)
  · next quote backslash _ _ _ _ _ control => exact .inr (.inr ⟨rfl, quote, backslash, control⟩)

theorem readChar_escape (c : Char) (rest : List Char) :
    readChar (escape c ++ rest) = .ok (c, rest) := by
  rcases escape_cases c with ⟨e, written, letter, short⟩ | ⟨written, control⟩ | ⟨written, -, plain⟩
  · simp [written, readChar, letter, short]
  · -- two of the four digits are zeros
    have value : c.toNat / 16 * 16 + c.toNat % 16 = c.toNat := by omega
    obtain ⟨not_high, not_low⟩ := not_surrogate_of_lt control
    have digits := readHex_digits (by omega : c.toNat / 16 < 16) (by omega : c.toNat % 16 < 16) rest
    rw [value] at digits
    simp [written, readChar, readCodePoint, digits, not_low, not_high, Char.ofNat_toNat]
  · simp [written, readChar, plain]

/-- No character is written with a quote in front, which would end the string. -/
theorem exists_escape_eq_cons (c : Char) : ∃ d r, escape c = d :: r ∧ d ≠ '"' := by
  rcases escape_cases c with ⟨e, written, -⟩ | ⟨written, -⟩ | ⟨written, quote, -⟩
  · exact ⟨_, _, written, by decide⟩
  · exact ⟨_, _, written, by decide⟩
  · exact ⟨_, _, written, quote⟩

theorem readString_of_readChar {c d : Char} {s rest : List Char} (no_end : c ≠ '"')
    (read : readChar (c :: s) = .ok (d, rest)) :
    readString (c :: s) = (fun (ds, rest) => (d :: ds, rest)) <$> readString rest := by
  rw [readString]
  · split
    · next h => rw [read] at h; cases h
    · next h =>
      rw [read] at h
      cases h
      rfl
  · rintro rfl
    exact no_end rfl

/-- A written string is read up to its closing quote. -/
@[simp] theorem readString_escape (s rest : List Char) :
    readString (s.flatMap escape ++ '"' :: rest) = .ok (s, rest) := by
  induction s with
  | nil => rw [List.flatMap_nil, List.nil_append, readString]
  | cons c s ih =>
    obtain ⟨d, r, written, no_end⟩ := exists_escape_eq_cons c
    have read := readChar_escape c (s.flatMap escape ++ '"' :: rest)
    rw [List.flatMap_cons, List.append_assoc]
    rw [written, List.cons_append] at read ⊢
    rw [readString_of_readChar no_end read, ih]
    rfl

/-! ### Integers -/

/-- A numeral that stands before the text ends there. -/
def Ends (rest : List Char) : Prop :=
  ∀ c ∈ rest.head?, c.isDigit = false ∧ c ≠ '.' ∧ c ≠ 'e' ∧ c ≠ 'E'

variable {rest : List Char}

theorem head?_write_append (n : Nat) (s : List Char) :
    (Numeral.write n ++ s).head? = (Numeral.write n).head? := by
  cases h : Numeral.write n with
  | nil => exact absurd h (Numeral.write_ne_nil n)
  | cons c r => rfl

theorem ne_zero_of_mem_head?_write {n : Nat} (positive : 0 < n) : ∀ c ∈ (Numeral.write n).head?, c ≠ '0' := by
  induction n using Nat.strongRecOn with
  | _ n ih =>
    rw [Numeral.write, Nat.toDigits_eq_if (by decide)]
    split
    · next small =>
      have digit : ∀ m < 10, 0 < m → Nat.digitChar m ≠ '0' := by decide
      simpa using digit n small positive
    · next large =>
      rw [← Numeral.write, head?_write_append]
      exact ih (n / 10) (by omega) (by omega)

theorem span_digits {s : List Char} (digits : ∀ d ∈ s, d.isDigit)
    (stop : ∀ c ∈ rest.head?, c.isDigit = false) :
    (s ++ rest).span Char.isDigit = (s, rest) := by
  have at_rest : rest.takeWhile Char.isDigit = [] ∧ rest.dropWhile Char.isDigit = rest := by
    cases rest with
    | nil => exact ⟨rfl, rfl⟩
    | cons c r => simp [stop c rfl]
  rw [List.span_eq_takeWhile_dropWhile, List.takeWhile_append_of_pos digits,
    List.dropWhile_append_of_pos digits, at_rest.1, at_rest.2, List.append_nil]

theorem span_write {n : Nat} (ends : Ends rest) :
    (Numeral.write n ++ rest).span Char.isDigit = (Numeral.write n, rest) :=
  span_digits (fun _ => Numeral.isDigit_of_mem_write) fun c hc => (ends c hc).1

theorem write_ne_zero_cons (n : Nat) (d : Char) (s : List Char) :
    Numeral.write n ≠ '0' :: d :: s := by
  intro written
  rcases Nat.eq_zero_or_pos n with rfl | positive
  · cases written
  · exact ne_zero_of_mem_head?_write positive '0' (by rw [written]; rfl) rfl

theorem readWhole_write {n : Nat} (ends : Ends rest) :
    Numeral.readWhole (Numeral.write n ++ rest) = .ok (Numeral.write n, rest) := by
  simp only [Numeral.readWhole, span_write ends]
  split
  · next none => exact absurd none (Numeral.write_ne_nil n)
  · next written => exact absurd written (write_ne_zero_cons n _ _)
  · rfl

theorem readFraction_of_ends (ends : Ends rest) : Numeral.readFraction rest = .ok (none, rest) := by
  unfold Numeral.readFraction
  split
  · exact absurd rfl (ends '.' rfl).2.1
  · rfl

theorem readExponent_of_ends (ends : Ends rest) : Numeral.readExponent rest = .ok (none, rest) := by
  cases rest with
  | nil => rfl
  | cons c r =>
    obtain ⟨-, -, lower, upper⟩ := ends c rfl
    simp [Numeral.readExponent, lower, upper]

/-- A written integer is read as its sign and its digits. -/
theorem read_writeInt {n : Int} (ends : Ends rest) :
    Numeral.read (Numeral.writeInt n ++ rest) =
      .ok (⟨decide (n < 0), Numeral.write n.natAbs, none, none⟩, rest) := by
  have unsigned : ∀ r, Numeral.write n.natAbs ++ rest ≠ '-' :: r := by
    intro r minus
    have first : '-' ∈ (Numeral.write n.natAbs ++ rest).head? := by rw [minus]; rfl
    rw [head?_write_append] at first
    exact absurd (Numeral.isDigit_of_mem_write (List.mem_of_mem_head? first)) (by decide)
  unfold Numeral.writeInt
  split
  · next negative =>
    simp [Numeral.read, readWhole_write ends, readFraction_of_ends ends, readExponent_of_ends ends,
      negative]
  · next natural =>
    unfold Numeral.read
    split
    next sign =>
      split at sign
      · next minus => exact absurd minus (unsigned _)
      · cases sign
        simp [readWhole_write ends, readFraction_of_ends ends, readExponent_of_ends ends, natural]

/-- A written integer stays an integer if it fits 64 bits, with a sign or without. -/
theorem integer?_int (n : Int) :
    Numeral.integer? ⟨decide (n < 0), Numeral.write n.natAbs, none, none⟩ =
      if -9223372036854775808 ≤ n ∧ n ≤ 18446744073709551615 then some n else none := by
  have value : Nat.ofDigitChars 10 (Numeral.write n.natAbs) 0 = n.natAbs :=
    Nat.ofDigitChars_ten_toDigits
  have half : 1 <<< 63 = 9223372036854775808 := by decide
  have full : Numeral.maxNatural = 18446744073709551615 := by decide
  simp only [Numeral.integer?, value, half, full, Option.isSome_none, Bool.or_self,
    Bool.false_eq_true, if_false, decide_eq_true_eq, Bool.and_eq_true]
  by_cases negative : n < 0
  · have back : -(n.natAbs : Int) = n := by omega
    rw [if_pos negative, back]
    exact if_congr (by omega) rfl rfl
  · have back : (n.natAbs : Int) = n := by omega
    rw [if_neg negative, back]
    exact if_congr (by omega) rfl rfl

theorem integer?_toInt (n : Int64) :
    Numeral.integer? ⟨decide (n.toInt < 0), Numeral.write n.toInt.natAbs, none, none⟩ =
      some n.toInt := by
  have low := n.le_toInt
  have high := n.toInt_lt
  rw [integer?_int, if_pos (by omega)]

/-- A written integer is read back. -/
theorem readNumber_writeInteger (n : Int64) (ends : Ends rest) :
    readNumber (writeInteger n ++ rest) = .ok (.integer n.toInt, rest) := by
  simp [readNumber, writeInteger, read_writeInt ends, Numeral.value, integer?_toInt]

end LargerThanLife.Json
