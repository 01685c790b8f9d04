import LargerThanLife.Proofs.Json.Grammar
import LargerThanLife.Proofs.Json.Token

/-! Readers of numbers and strings on spelled ones. However a number is spelled, it is read as that
number, as long as what follows does not go on with it; and however a string is spelled, it is read as
the text that it stands for, or not at all if it stands for none. What follows is left as it is. -/

namespace LargerThanLife.Json

open Text (hexValue)
open Text.Numeral (Digits readDigits_eq_some_iff)

variable {s t rest : List Char}

/-! ### Numbers -/

/-- What follows the digits of a number begins with none. -/
theorem head_not_digit {fraction : Option (List Char)} {exponent : Option ℤ} {f e : List Char}
    (spelled : SpellsFraction fraction f) (raised : SpellsExponent exponent e) (ends : Ends rest) :
    ∀ c ∈ (f ++ (e ++ rest)).head?, c.isDigit = false := by
  have letter {c : Char} (h : c = 'e' ∨ c = 'E') : c.isDigit = false := by
    rcases h with rfl | rfl <;> rfl
  intro c hc
  cases spelled with
  | present => cases hc; rfl
  | absent =>
    cases raised with
    | absent => exact (ends c hc).1
    | bare h => cases hc; exact letter h
    | plus h => cases hc; exact letter h
    | minus h => cases hc; exact letter h

theorem readFraction_of_spells {fraction : Option (List Char)} {exponent : Option ℤ}
    {f e : List Char} (spelled : SpellsFraction fraction f) (raised : SpellsExponent exponent e)
    (ends : Ends rest) : Numeral.readFraction (f ++ (e ++ rest)) = .ok (fraction, e ++ rest) := by
  cases spelled with
  | present digits =>
    have stop : ∀ c ∈ (e ++ rest).head?, c.isDigit = false := head_not_digit .absent raised ends
    rw [List.cons_append, Numeral.readFraction]
    simp only [span_digits digits.isDigit_of_mem stop, digits.ne_nil, if_false]
  | absent =>
    cases raised with
    | absent => exact readFraction_of_ends ends
    | bare h => rcases h with rfl | rfl <;> rfl
    | plus h => rcases h with rfl | rfl <;> rfl
    | minus h => rcases h with rfl | rfl <;> rfl

/-- Digits without a sign are read without a sign. -/
theorem readSign_digits {n : ℕ} (digits : Digits s n) :
    Number.Decimal.readSign (s ++ rest) = (false, s ++ rest) := by
  obtain ⟨d, r, rfl⟩ := List.exists_cons_of_ne_nil digits.ne_nil
  have digit := digits.isDigit_of_mem d List.mem_cons_self
  unfold Number.Decimal.readSign
  split
  · next minus => cases minus; cases digit
  · next plus => cases plus; cases digit
  · rfl

theorem readExponent_of_letter {c : Char} {digits : List Char} {negative : Bool} {n : ℕ}
    (letter : c = 'e' ∨ c = 'E') (sign : Number.Decimal.readSign s = (negative, digits ++ rest))
    (spelled : Digits digits n) (ends : Ends rest) :
    Numeral.readExponent (c :: s) = .ok (some (if negative then -(n : ℤ) else n), rest) := by
  have either : (decide (c = 'e') || decide (c = 'E')) = true := by simpa using letter
  have stop (d : Char) (hd : d ∈ rest.head?) : d.isDigit = false := (ends d hd).1
  simp only [Numeral.readExponent, if_pos either, sign, span_digits spelled.isDigit_of_mem stop,
    readDigits_eq_some_iff.mpr spelled]

theorem readExponent_of_spells {exponent : Option ℤ} {e : List Char}
    (spelled : SpellsExponent exponent e) (ends : Ends rest) :
    Numeral.readExponent (e ++ rest) = .ok (exponent, rest) := by
  cases spelled with
  | absent => exact readExponent_of_ends ends
  | bare letter digits => exact readExponent_of_letter letter (readSign_digits digits) digits ends
  | plus letter digits =>
    exact readExponent_of_letter (s := '+' :: (_ ++ rest)) letter rfl digits ends
  | minus letter digits =>
    exact readExponent_of_letter (s := '-' :: (_ ++ rest)) letter rfl digits ends

theorem readWhole_of_digits {n : ℕ} (digits : Digits s n) (lead : ∀ d r, s ≠ '0' :: d :: r)
    (stop : ∀ c ∈ rest.head?, c.isDigit = false) :
    Numeral.readWhole (s ++ rest) = .ok (s, rest) := by
  simp only [Numeral.readWhole, span_digits digits.isDigit_of_mem stop]
  split
  · next none => exact absurd rfl digits.ne_nil
  · next zero => exact absurd rfl (lead _ _)
  · rfl

theorem read_of_spells {x : Numeral} (spelled : SpellsNumeral x t) (ends : Ends rest) :
    Numeral.read (t ++ rest) = .ok (x, rest) := by
  obtain ⟨sign, digits, lead, fraction, exponent⟩ := spelled
  next whole n _ _ _ f e =>
  have whole_eq := readWhole_of_digits digits lead (head_not_digit fraction exponent ends)
  have fraction_eq := readFraction_of_spells fraction exponent ends
  have exponent_eq := readExponent_of_spells exponent ends
  have unsigned (r : List Char) : whole ++ (f ++ (e ++ rest)) ≠ '-' :: r := by
    obtain ⟨d, s, rfl⟩ := List.exists_cons_of_ne_nil digits.ne_nil
    intro minus
    obtain ⟨rfl, -⟩ := List.cons.inj minus
    exact absurd (digits.isDigit_of_mem _ List.mem_cons_self) (by decide)
  cases sign with
  | minus =>
    simp only [List.append_assoc, List.cons_append, List.nil_append]
    simp [Numeral.read, whole_eq, fraction_eq, exponent_eq]
  | plus =>
    simp only [List.append_assoc, List.nil_append]
    unfold Numeral.read
    split
    next sign =>
      split at sign
      · next minus => exact absurd minus (unsigned _)
      · cases sign
        simp [whole_eq, fraction_eq, exponent_eq]

theorem readNumber_of_spells {x : Numeral} (spelled : SpellsNumeral x t) (ends : Ends rest) :
    readNumber (t ++ rest) = (·, rest) <$> x.value := by
  simp only [readNumber, read_of_spells spelled ends, ok_bind]
  cases x.value <;> rfl

/-! ### Strings -/

theorem readHex_of_hex {n : ℕ} (digits : Hex s n) (rest : List Char) :
    readHex (s ++ rest) = .ok (n, rest) := by
  obtain ⟨first, second, third, fourth⟩ := digits
  simp only [List.cons_append, List.nil_append, readHex, first, second, third, fourth,
    Except.ok.injEq, Prod.mk.injEq, and_true]
  omega

theorem ne_letter_of_short {e c : Char} (short : shortEscape e = some c) : e ≠ 'u' := by
  rintro rfl
  cases short

theorem readChar_of_spells {c : Char} (spelled : SpellsPiece (.char c) t) (rest : List Char) :
    readChar (t ++ rest) = .ok (c, rest) := by
  cases spelled with
  | plain quote backslash control => simp [readChar, backslash, control]
  | short letter => simp [readChar, ne_letter_of_short letter, letter]
  | number digits high low => simp [readChar, readCodePoint, readHex_of_hex digits, high, low]

theorem exists_piece_eq_cons {piece : Piece} (spelled : SpellsPiece piece t) :
    ∃ d r, t = d :: r ∧ d ≠ '"' := by
  cases spelled with
  | plain quote => exact ⟨_, _, rfl, quote⟩
  | short => exact ⟨_, _, rfl, by decide⟩
  | number => exact ⟨_, _, rfl, by decide⟩
  | half => exact ⟨_, _, rfl, by decide⟩

theorem readString_of_refused {piece : Piece} {why : Malformation} (first : SpellsPiece piece t)
    (refused : readChar (t ++ rest) = .error why) : readString (t ++ rest) = .error why := by
  obtain ⟨c, r, rfl, no_end⟩ := exists_piece_eq_cons first
  rw [List.cons_append] at refused ⊢
  rw [readString]
  · split
    · next same => rw [refused] at same; cases same; rfl
    · next read => rw [refused] at read; cases read
  · rintro rfl
    exact no_end rfl

theorem readString_eq_map {piece : Piece} {c : Char} (first : SpellsPiece piece t)
    (read : readChar (t ++ rest) = .ok (c, s)) :
    readString (t ++ rest) = (fun (ds, rest) => (c :: ds, rest)) <$> readString s := by
  obtain ⟨d, r, rfl, no_end⟩ := exists_piece_eq_cons first
  exact readString_of_readChar no_end read

theorem isHighSurrogate_of_low {h : ℕ} (low : isLowSurrogate h) : isHighSurrogate h = false := by
  simp only [isLowSurrogate, isHighSurrogate, Bool.and_eq_true, Bool.and_eq_false_iff,
    decide_eq_true_eq, decide_eq_false_iff_not] at low ⊢
  omega

/-- The first half of a pair is read together with the number behind it. -/
theorem readChar_half_number {h l : ℕ} {u : List Char} (spelled : SpellsPiece (.half h) t)
    (digits : Hex u l) (rest : List Char) :
    readChar (t ++ '\\' :: 'u' :: (u ++ rest)) =
      if isHighSurrogate h ∧ isLowSurrogate l then .ok (ofSurrogates h l, rest)
      else .error .loneSurrogate := by
  obtain - | - | - | ⟨half, either⟩ := spelled
  simp only [List.cons_append, readChar, if_true, readCodePoint, readHex_of_hex half,
    readSecondHalf, readHex_of_hex digits]
  by_cases low : isLowSurrogate h = true
  · simp [low, isHighSurrogate_of_low low]
  · simp [low, either.resolve_right low]

/-- Half of a pair with anything but a number behind it is no character. -/
theorem readChar_half_alone {h : ℕ} (spelled : SpellsPiece (.half h) t)
    (alone : (∃ c r, rest = c :: r ∧ c ≠ '\\') ∨ ∃ e r, rest = '\\' :: e :: r ∧ e ≠ 'u') :
    readChar (t ++ rest) = .error .loneSurrogate := by
  obtain - | - | - | ⟨half, either⟩ := spelled
  simp only [List.cons_append, readChar, if_true, readCodePoint, readHex_of_hex half]
  by_cases low : isLowSurrogate h = true
  · simp [low]
  · have second : readSecondHalf h rest = .error .loneSurrogate := by
      rcases alone with ⟨c, r, rfl, backslash⟩ | ⟨e, r, rfl, letter⟩
      · simp [readSecondHalf, backslash]
      · simp [readSecondHalf, letter]
    simp [low, either.resolve_right low, second]

/-- Behind half of a pair, a character as it is or after a backslash is no number, and the number of a
character is not that of another half. -/
theorem readChar_half_char {h : ℕ} {c : Char} {u : List Char} (spelled : SpellsPiece (.half h) t)
    (next : SpellsPiece (.char c) u) (rest : List Char) :
    readChar (t ++ (u ++ rest)) = .error .loneSurrogate := by
  cases next with
  | plain _ backslash => exact readChar_half_alone spelled (.inl ⟨_, _, rfl, backslash⟩)
  | short letter =>
    exact readChar_half_alone spelled (.inr ⟨_, _, rfl, ne_letter_of_short letter⟩)
  | number digits _ low =>
    rw [List.cons_append, List.cons_append, readChar_half_number spelled digits]
    simp [low]

/-- What a string stands for, if it stands for a text. -/
def standsFor {α : Type} : Option α → Except Malformation α
  | some a => .ok a
  | none => .error .loneSurrogate

/-- A spelled string is read up to its closing quote, if its pieces stand for a text. -/
theorem readString_of_pieces {pieces : List Piece} {spelled : List (List Char)}
    (all : List.Forall₂ SpellsPiece pieces spelled) (rest : List Char) :
    readString (spelled.flatten ++ '"' :: rest) = (·, rest) <$> standsFor (join? pieces) := by
  fun_induction join? pieces generalizing spelled with
  | case1 =>
    cases all
    rw [List.flatten_nil, List.nil_append, readString]
    rfl
  | case2 c pieces ih =>
    obtain - | ⟨first, all⟩ := all
    rw [List.flatten_cons, List.append_assoc, readString_eq_map first (readChar_of_spells first _),
      ih all]
    cases join? pieces <;> rfl
  | case3 h l pieces both ih =>
    obtain - | ⟨first, - | ⟨- | - | - | ⟨digits, -⟩, all⟩⟩ := all
    have read := readChar_half_number first digits
    simp only [if_pos both] at read
    simp only [List.flatten_cons, List.append_assoc, List.cons_append]
    rw [readString_eq_map first (read _), ih all]
    cases join? pieces <;> rfl
  | case4 h l pieces fails =>
    obtain - | ⟨first, - | ⟨- | - | - | ⟨digits, -⟩, all⟩⟩ := all
    have read := readChar_half_number first digits
    simp only [if_neg fails] at read
    simp only [List.flatten_cons, List.append_assoc, List.cons_append]
    exact readString_of_refused first (read _)
  | case5 h pieces other =>
    obtain - | ⟨first, all⟩ := all
    rw [List.flatten_cons, List.append_assoc]
    refine readString_of_refused first ?_
    cases all with
    | nil => exact readChar_half_alone first (.inl ⟨_, _, rfl, by decide⟩)
    | @cons piece _ _ _ next =>
      cases piece with
      | char c => rw [List.flatten_cons, List.append_assoc]; exact readChar_half_char first next _
      | half l => exact absurd rfl (other l _)

theorem readString_of_spells {key : Option String} (spelled : SpellsString key t)
    (rest : List Char) :
    readString (t ++ rest) = (fun s => (s.toList, rest)) <$> standsFor key := by
  obtain ⟨all⟩ := spelled
  next pieces spelled =>
  rw [List.append_assoc, List.singleton_append, readString_of_pieces all]
  cases join? pieces with
  | none => rfl
  | some s => simp [standsFor]

end LargerThanLife.Json
