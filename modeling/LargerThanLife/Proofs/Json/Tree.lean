import LargerThanLife.Proofs.Json.Judgement
import LargerThanLife.Proofs.Json.Scanner

/-! Records read from trees. A record is read from a text in one pass, which stops at the first fault
and does not enter what it refuses. Here it is read from a value as a tree, with no text and no
position; and reading a text that spells a value comes to the same. So whatever is read from a
well-formed text, and whatever is wrong with it, depends on the value alone and not on how it is
spelled. -/

namespace LargerThanLife.Json

variable {s t rest : List Char} {v : Value}

/-! ### Reading trees -/

namespace Value

/-- The value as far as a message names it, if it stands for a text or for a number in range at all. -/
def found : Value → Except Malformation Found
  | null => .ok .null
  | boolean b => .ok (.boolean b)
  | number x => NumberValue.found <$> x.value
  | text s => .text <$> standsFor s
  | array _ => .ok .sequence
  | object _ => .ok .map

def mismatch (expected : Expected) (v : Value) : Fault :=
  match v.found with
  | .ok found => .mismatch (.wrongType found expected)
  | .error why => .malformed why

def toInteger (v : Value) : Except Fault Int64 :=
  match v.found with
  | .ok (.integer n) =>
    if n < 1 <<< 63 then .ok (Int64.ofInt n) else .error (.mismatch (.wrongInteger n))
  | _ => .error (v.mismatch .integer)

def toText : Value → Except Fault String
  | text (some s) => .ok s
  | v => .error (v.mismatch .text)

/-- The two integers that a value is. Of an array with more elements, the first two are looked at. -/
def toPair : Value → Except Fault (Int64 × Int64)
  | array [] => .error (.mismatch (.wrongLength 0 .pair))
  | array [v] => do
    let _ ← v.toInteger
    throw (.mismatch (.wrongLength 1 .pair))
  | array (v :: w :: others) => do
    let first ← v.toInteger
    let second ← w.toInteger
    if others.isEmpty then return (first, second) else throw (.malformed .trailingCharacters)
  | v => .error (v.mismatch .pair)

end Value

namespace Draft

def putValue (d : Draft) (field : Field) (v : Value) : Except Fault Draft :=
  match field with
  | .radius => (fun n => { d with radius := some n }) <$> v.toInteger
  | .decayStates => (fun n => { d with decayStates := some n }) <$> v.toInteger
  | .agingEnabled => (fun n => { d with agingEnabled := some n }) <$> v.toInteger
  | .survivalInterval => (fun p => { d with survivalInterval := some p }) <$> v.toPair
  | .birthInterval => (fun p => { d with birthInterval := some p }) <$> v.toPair
  | .neighbourhoodCode => (fun code => { d with neighbourhoodCode := some code }) <$> v.toText

def putMember (d : Draft) (m : Option String × Value) : Except Fault Draft :=
  match m.1 with
  | none => .error (.malformed .loneSurrogate)
  | some key =>
    match ofKey? key with
    | none => .error (.mismatch (.unknownKey key))
    | some field =>
      if d.has field then .error (.mismatch (.duplicate field)) else d.putValue field m.2

/-- Puts the elements of an array, after `index` others, under the given fields, one each. -/
def putElements : List Field → ℕ → Draft → List Value → Except Fault Draft
  | [], _, d, [] => .ok d
  | [], _, _, _ :: _ => .error (.malformed .trailingCharacters)
  | _ :: _, index, _, [] => .error (.mismatch (.wrongLength index .sixValues))
  | field :: fields, index, d, v :: vs => do
    putElements fields (index + 1) (← d.putValue field v) vs

end Draft

def Value.toRecord : Value → Except Fault Record
  | object members => do (← members.foldlM Draft.putMember Draft.empty).toRecord
  | array elements => do (← Draft.putElements Field.all 0 Draft.empty elements).toRecord
  | v => .error (v.mismatch .record)

/-! ### Single values -/

theorem SpellsNumeral.exists_cons {x : Numeral} (spelled : SpellsNumeral x t) :
    ∃ c r, t = c :: r ∧ (c = '-' ∨ c.isDigit = true) ∧
      ∀ d : Char, d.isDigit = false → d ≠ '-' → c ≠ d := by
  obtain ⟨sign, digits, -, -, -⟩ := spelled
  cases sign with
  | minus => exact ⟨'-', _, rfl, .inl rfl, fun d _ minus => minus.symm⟩
  | plus =>
    obtain ⟨c, r, rfl⟩ := List.exists_cons_of_ne_nil digits.ne_nil
    have digit := digits.isDigit_of_mem c List.mem_cons_self
    refine ⟨c, _, rfl, .inr digit, fun d other _ => ?_⟩
    rintro rfl
    rw [digit] at other
    cases other

/-- The character that a value begins with tells numbers, strings, arrays and objects apart from each
other and from everything else. -/
theorem Spells.exists_cons (spelled : Spells v t) :
    ∃ c r, t = c :: r ∧ isBlank c = false ∧ c ≠ ']' ∧
      ((c.isDigit = false ∧ c ≠ '-') ∨ ∃ x, v = .number x) ∧ (c = '"' ↔ ∃ s, v = .text s) ∧
      (c = '[' ↔ ∃ vs, v = .array vs) ∧ (c = '{' ↔ ∃ ms, v = .object ms) := by
  cases spelled with
  | null => exact ⟨'n', _, rfl, by simp [isBlank]⟩
  | yes => exact ⟨'t', _, rfl, by simp [isBlank]⟩
  | no => exact ⟨'f', _, rfl, by simp [isBlank]⟩
  | text => exact ⟨'"', _, rfl, by simp [isBlank]⟩
  | array => exact ⟨'[', _, rfl, by simp [isBlank]⟩
  | object => exact ⟨'{', _, rfl, by simp [isBlank]⟩
  | number spelled =>
    obtain ⟨c, r, rfl, -, other⟩ := spelled.exists_cons
    exact ⟨c, r, rfl, by simp [isBlank, other]⟩

theorem skipBlank_spells (spelled : Spells v t) (rest : List Char) :
    skipBlank (t ++ rest) = t ++ rest := by
  obtain ⟨c, r, rfl, not_blank, -⟩ := spelled.exists_cons
  rw [List.cons_append, skipBlank_cons not_blank]

theorem found_of_spells (spelled : Spells v t) (ends : Ends rest) : found (t ++ rest) = v.found := by
  cases spelled with
  | null => rfl
  | yes => rfl
  | no => rfl
  | array => rfl
  | object => rfl
  | @text s _ spelled =>
    rw [List.cons_append, found, if_pos rfl, readString_of_spells spelled, Value.found]
    cases s with
    | none => rfl
    | some s => simp [standsFor]
  | @number x _ spelled =>
    have read := readNumber_of_spells spelled ends
    obtain ⟨c, r, rfl, first, other⟩ := spelled.exists_cons
    rw [List.cons_append] at read ⊢
    simp only [found, other '"' rfl (by decide), other '[' rfl (by decide), other '{' rfl (by decide),
      other 'n' rfl (by decide), other 't' rfl (by decide), other 'f' rfl (by decide), if_false,
      Bool.or_eq_true, decide_eq_true_eq, if_pos first, read, Value.found]
    cases x.value <;> rfl

theorem mismatch_of_spells (spelled : Spells v t) (ends : Ends rest) (expected : Expected) :
    mismatch expected (t ++ rest) = v.mismatch expected := by
  have same := found_of_spells spelled ends
  cases found : v.found with
  | error why => simp only [mismatch, Value.mismatch, same, found]
  | ok what => simp only [mismatch, Value.mismatch, same, found]

theorem readNumber_of_no_digit {c : Char} (digit : c.isDigit = false) (minus : c ≠ '-') :
    readNumber (c :: s) = .error .badNumber := by
  have whole : Numeral.readWhole (c :: s) = .error .badNumber := by
    simp [Numeral.readWhole, Numeral.lacking, digit]
  have read : Numeral.read (c :: s) = .error .badNumber := by
    unfold Numeral.read
    split
    next sign =>
      split at sign
      · next same => exact absurd (List.cons.inj same).1 minus
      · cases sign
        rw [whole]
        rfl
  rw [readNumber, read]
  rfl

theorem Value.toInteger_of_not_number (other : ¬∃ x, v = .number x) :
    v.toInteger = .error (v.mismatch .integer) := by
  cases v with
  | number x => exact absurd ⟨x, rfl⟩ other
  | text s => cases s <;> rfl
  | _ => rfl

theorem readInteger_of_spells (spelled : Spells v t) (ends : Ends rest) :
    readInteger (t ++ rest) = (·, rest) <$> v.toInteger := by
  have refused := mismatch_of_spells spelled ends .integer
  by_cases number : ∃ x, v = .number x
  · obtain ⟨x, rfl⟩ := number
    rw [readInteger, skipBlank_spells spelled]
    obtain - | - | - | spelled := spelled
    simp only [readNumber_of_spells spelled ends, refused, Value.toInteger, Value.found]
    rcases x.value with why | (n | x)
    · rfl
    · simp only [Except.map_ok, NumberValue.found]
      split <;> rfl
    · rfl
  · obtain ⟨c, r, rfl, -, -, first, -⟩ := spelled.exists_cons
    obtain ⟨digit, minus⟩ := first.resolve_right number
    rw [Value.toInteger_of_not_number number, readInteger, skipBlank_spells spelled]
    simp only [List.cons_append, readNumber_of_no_digit digit minus] at refused ⊢
    rw [refused]
    rfl

theorem Value.toText_of_not_text (other : ¬∃ s, v = .text s) :
    v.toText = .error (v.mismatch .text) := by
  cases v with
  | text s => exact absurd ⟨s, rfl⟩ other
  | _ => rfl

theorem readText_of_spells (spelled : Spells v t) (ends : Ends rest) :
    readText (t ++ rest) = (·, rest) <$> v.toText := by
  have refused := mismatch_of_spells spelled ends .text
  rw [readText, skipBlank_spells spelled]
  by_cases text : ∃ s, v = .text s
  · obtain ⟨s, rfl⟩ := text
    obtain - | - | - | - | spelled := spelled
    simp only [List.cons_append, readString_of_spells spelled]
    cases s with
    | none => rfl
    | some s => simp [standsFor, Value.toText]
  · obtain ⟨c, r, rfl, -, -, -, quote, -⟩ := spelled.exists_cons
    rw [Value.toText_of_not_text text, ← refused]
    split
    · next same => exact absurd (quote.mp (List.cons.inj same).1) text
    · rfl

/-! ### Pairs -/

theorem readInteger_append_blanks {b : List Char} (blank : Blanks b) (s : List Char) :
    readInteger (b ++ s) = readInteger s := by
  rw [readInteger, readInteger, skipBlank_append blank]

theorem ends_blanks {b : List Char} (blank : Blanks b) (ends : Ends rest) : Ends (b ++ rest) := by
  cases b with
  | nil => exact ends
  | cons c b =>
    intro d hd
    cases hd
    have here := blank c List.mem_cons_self
    simp only [isBlank, Bool.or_eq_true, decide_eq_true_eq] at here
    rcases here with ((rfl | rfl) | rfl) | rfl <;> decide

theorem nextElement_zero_of_spells {b : List Char} (blank : Blanks b) (spelled : Spells v t)
    (expected : Expected) (rest : List Char) :
    nextElement 0 expected (b ++ (t ++ rest)) = .ok (t ++ rest) := by
  obtain ⟨c, r, rfl, not_blank, not_bracket, -⟩ := spelled.exists_cons
  simp [nextElement, skipBlank_append blank, not_blank, not_bracket]

theorem nextElement_comma_of_spells {b b' : List Char} {index : ℕ} (later : index ≠ 0)
    (blank : Blanks b) (blank' : Blanks b') (spelled : Spells v t) (expected : Expected)
    (rest : List Char) :
    nextElement index expected (b ++ ',' :: (b' ++ (t ++ rest))) = .ok (t ++ rest) := by
  obtain ⟨c, r, rfl, not_blank, not_bracket, -⟩ := spelled.exists_cons
  simp [nextElement, skipBlank_append blank, skipBlank_append blank', not_blank, not_bracket, later]

theorem nextElement_close {b : List Char} (blank : Blanks b) (index : ℕ) (expected : Expected)
    (rest : List Char) : nextElement index expected (b ++ ']' :: rest) =
      .error (.mismatch (.wrongLength index expected)) := by
  simp [nextElement, skipBlank_append blank]

theorem SpellsFurther.ends {vs : List Value} {u : List Char} (further : SpellsFurther vs u)
    (rest : List Char) : Ends (u ++ rest) := by
  cases further with
  | close blank =>
    rw [List.append_assoc]
    exact ends_blanks blank (ends_cons (.inr (.inl rfl)) _)
  | comma blank =>
    rw [List.append_assoc]
    exact ends_blanks blank (ends_cons (.inl rfl) _)

theorem closeArray_of_further {vs : List Value} {u : List Char} (further : SpellsFurther vs u)
    (rest : List Char) :
    closeArray (u ++ rest) =
      if vs.isEmpty then .ok rest else .error (.malformed .trailingCharacters) := by
  cases further with
  | close blank =>
    simp [closeArray, skipBlank_append blank]
  | comma blank blank' spelled =>
    -- a bracket right behind the comma would be named before the value that stands there
    obtain ⟨c, r, rfl, not_blank, not_bracket, -⟩ := spelled.exists_cons
    simp [closeArray, skipBlank_append blank, skipBlank_append blank', not_blank, not_bracket]

theorem Value.toPair_of_not_array (other : ¬∃ vs, v = .array vs) :
    v.toPair = .error (v.mismatch .pair) := by
  cases v with
  | array vs => exact absurd ⟨vs, rfl⟩ other
  | _ => rfl

theorem readPair_of_elements {vs : List Value} (elements : SpellsElements vs t) (rest : List Char) :
    readPair ('[' :: (t ++ rest)) = (·, rest) <$> (Value.array vs).toPair := by
  rw [readPair, skipBlank_cons (by rfl : isBlank '[' = false)]
  cases elements with
  | empty blank =>
    simp only [List.append_assoc, List.singleton_append, nextElement_close blank]
    rfl
  | @first _ _ _ v vs blank spelled further =>
    simp only [List.append_assoc, nextElement_zero_of_spells blank spelled,
      readInteger_of_spells spelled (further.ends rest), ok_bind]
    cases further with
    | close blank =>
      simp only [List.append_assoc, List.singleton_append, Value.toPair]
      cases v.toInteger with
      | error fault => rfl
      | ok n => simp only [Except.map_ok, ok_bind, nextElement_close blank]; rfl
    | @comma _ _ _ _ w vs blank blank' spelled further =>
      simp only [List.append_assoc, List.cons_append, Value.toPair]
      cases v.toInteger with
      | error fault => rfl
      | ok n =>
        simp only [Except.map_ok, ok_bind,
          nextElement_comma_of_spells Nat.one_ne_zero blank blank' spelled,
          readInteger_of_spells spelled (further.ends rest)]
        cases w.toInteger with
        | error fault => rfl
        | ok m =>
          simp only [Except.map_ok, ok_bind, closeArray_of_further further]
          cases vs <;> rfl

theorem readPair_of_spells (spelled : Spells v t) (ends : Ends rest) :
    readPair (t ++ rest) = (·, rest) <$> v.toPair := by
  have refused := mismatch_of_spells spelled ends .pair
  by_cases array : ∃ vs, v = .array vs
  · obtain ⟨vs, rfl⟩ := array
    obtain - | - | - | - | - | elements := spelled
    exact readPair_of_elements elements rest
  · rw [readPair, skipBlank_spells spelled]
    obtain ⟨c, r, rfl, -, -, -, -, bracket, -⟩ := spelled.exists_cons
    rw [Value.toPair_of_not_array array, ← refused]
    split
    · next same => exact absurd (bracket.mp (List.cons.inj same).1) array
    · rfl

/-! ### Fields and elements -/

theorem readField_append_blanks {b : List Char} (blank : Blanks b) (field : Field) (d : Draft)
    (s : List Char) : readField field d (b ++ s) = readField field d s := by
  cases field <;>
    simp only [readField, readInteger_append_blanks blank, readPair, readText,
      skipBlank_append blank]

theorem put_read {α : Type} {reader : Reader α} {outcome : Except Fault α}
    (read : reader s = (·, rest) <$> outcome) (put : α → Draft) :
    (do let (a, rest) ← reader s; return (put a, rest)) = (·, rest) <$> put <$> outcome := by
  rw [read]
  cases outcome <;> rfl

theorem readField_of_spells (spelled : Spells v t) (ends : Ends rest) (field : Field) (d : Draft) :
    readField field d (t ++ rest) = (·, rest) <$> d.putValue field v := by
  have integer := readInteger_of_spells spelled ends
  have pair := readPair_of_spells spelled ends
  cases field with
  | radius => exact put_read integer fun n => { d with radius := some n }
  | decayStates => exact put_read integer fun n => { d with decayStates := some n }
  | agingEnabled => exact put_read integer fun n => { d with agingEnabled := some n }
  | survivalInterval => exact put_read pair fun p => { d with survivalInterval := some p }
  | birthInterval => exact put_read pair fun p => { d with birthInterval := some p }
  | neighbourhoodCode =>
    exact put_read (readText_of_spells spelled ends)
      fun code => { d with neighbourhoodCode := some code }

theorem readElements_of_further {fields : List Field} {index : ℕ} {d : Draft} {vs : List Value}
    {u : List Char} (later : index ≠ 0) (further : SpellsFurther vs u) (rest : List Char) :
    readElements fields index d (u ++ rest) = (·, rest) <$> Draft.putElements fields index d vs := by
  induction fields generalizing index d vs u with
  | nil =>
    rw [readElements, closeArray_of_further further]
    cases vs <;> rfl
  | cons field fields ih =>
    cases further with
    | close blank =>
      rw [readElements, List.append_assoc, List.singleton_append, nextElement_close blank]
      rfl
    | @comma _ _ _ _ v vs blank blank' spelled further =>
      simp only [readElements, List.append_assoc, List.cons_append, Draft.putElements,
        nextElement_comma_of_spells later blank blank' spelled, ok_bind,
        readField_of_spells spelled (further.ends rest)]
      cases d.putValue field v with
      | error fault => rfl
      | ok d => exact ih (Nat.succ_ne_zero index) further

theorem readElements_of_elements {field : Field} {fields : List Field} {d : Draft}
    {vs : List Value} {u : List Char} (elements : SpellsElements vs u) (rest : List Char) :
    readElements (field :: fields) 0 d (u ++ rest) =
      (·, rest) <$> Draft.putElements (field :: fields) 0 d vs := by
  cases elements with
  | empty blank =>
    rw [readElements, List.append_assoc, List.singleton_append, nextElement_close blank]
    rfl
  | @first _ _ _ v vs blank spelled further =>
    simp only [readElements, List.append_assoc, Draft.putElements,
      nextElement_zero_of_spells blank spelled, ok_bind,
      readField_of_spells spelled (further.ends rest)]
    cases d.putValue field v with
    | error fault => rfl
    | ok d => exact readElements_of_further Nat.one_ne_zero further rest

/-! ### Members -/

theorem SpellsLater.ends {ms : List (Option String × Value)} {u : List Char}
    (later : SpellsLater ms u) (rest : List Char) : Ends (u ++ rest) := by
  cases later with
  | close blank =>
    rw [List.append_assoc]
    exact ends_blanks blank (ends_cons (.inr (.inr rfl)) _)
  | comma blank =>
    rw [List.append_assoc]
    exact ends_blanks blank (ends_cons (.inl rfl) _)

theorem readMember_of_spells {m : Option String × Value} (spelled : SpellsMember m t)
    (ends : Ends rest) (d : Draft) :
    readMember d (t ++ rest) = (·, rest) <$> d.putMember m := by
  obtain ⟨key, blank, blank', value⟩ := spelled
  next name k b b' t v =>
  simp only [readMember, List.append_assoc, List.cons_append, readString_of_spells key,
    Draft.putMember]
  cases name with
  | none => rfl
  | some name =>
    simp only [standsFor, Except.map_ok, String.ofList_toList]
    cases ofKey? name with
    | none => rfl
    | some field =>
      by_cases repeated : d.has field = true
      · simp [repeated]
      · simp [repeated, skipBlank_append blank, readField_append_blanks blank',
          readField_of_spells value ends]

theorem Draft.has_of_putValue {d d' : Draft} {field : Field} (put : d.putValue field v = .ok d')
    (g : Field) : d'.has g = (d.has g || g == field) := by
  cases field with
  | _ =>
    obtain ⟨a, -, rfl⟩ := map_eq_ok_iff.mp put
    cases g <;> simp [has]

theorem Draft.putMember_eq_ok_iff {d d' : Draft} {m : Option String × Value} :
    d.putMember m = .ok d' ↔
      ∃ field, m.1 = some field.name ∧ d.has field = false ∧ d.putValue field m.2 = .ok d' := by
  obtain ⟨key, v⟩ := m
  constructor
  · intro put
    simp only [putMember] at put
    cases key with
    | none => cases put
    | some key =>
      cases known : ofKey? key with
      | none =>
        simp only [known] at put
        cases put
      | some field =>
        simp only [known] at put
        split at put
        · cases put
        · next fresh =>
          exact ⟨field, by rw [ofKey?_eq_some_iff.mp known], Bool.eq_false_iff.mpr fresh, put⟩
  · rintro ⟨field, rfl, fresh, put⟩
    simp only [putMember, ofKey?_name, fresh, Bool.false_eq_true, if_false, put]

/-- The number of fields that a draft does not have yet. -/
def Draft.vacant (d : Draft) : ℕ := Field.all.countP fun field => !d.has field

theorem Draft.vacant_of_putMember {d d' : Draft} {m : Option String × Value}
    (put : d.putMember m = .ok d') : d'.vacant + 1 = d.vacant := by
  obtain ⟨field, -, fresh, put⟩ := putMember_eq_ok_iff.mp put
  simp only [vacant, Field.all, List.countP_cons, List.countP_nil, has_of_putValue put]
  cases field with
  | radius => simp [fresh]
  | _ =>
    simp only [fresh]
    simp
    omega

/-- There is room for one more member than fields are left, and that one is refused. -/
theorem readMembers_of_spells {count : ℕ} {d : Draft} {m : Option String × Value}
    {ms : List (Option String × Value)} {u : List Char} (spelled : SpellsMember m t)
    (later : SpellsLater ms u) (room : d.vacant < count) (rest : List Char) :
    readMembers count d (t ++ (u ++ rest)) = (·, rest) <$> (m :: ms).foldlM Draft.putMember d := by
  induction ms generalizing count d m t u with
  | nil =>
    obtain ⟨count, rfl⟩ := Nat.exists_eq_succ_of_ne_zero (Nat.ne_zero_of_lt room)
    rw [readMembers, readMember_of_spells spelled (later.ends rest), List.foldlM_cons]
    obtain ⟨blank⟩ := later
    cases d.putMember m with
    | error fault => rfl
    | ok d' =>
      simp [skipBlank_append blank]
  | cons m' ms ih =>
    obtain ⟨count, rfl⟩ := Nat.exists_eq_succ_of_ne_zero (Nat.ne_zero_of_lt room)
    rw [readMembers, readMember_of_spells spelled (later.ends rest), List.foldlM_cons]
    obtain - | ⟨blank, blank', spelled, later⟩ := later
    cases put : d.putMember m with
    | error fault => rfl
    | ok d' =>
      have left : d'.vacant < count := by
        have := Draft.vacant_of_putMember put
        omega
      simpa [skipBlank_append blank, skipBlank_append blank'] using ih spelled later left

theorem readObject_of_spells {ms : List (Option String × Value)} (members : SpellsMembers ms t)
    (rest : List Char) :
    readObject (t ++ rest) = (·, rest) <$> ms.foldlM Draft.putMember Draft.empty := by
  cases members with
  | empty blank =>
    simp [readObject, skipBlank_append blank]
    rfl
  | first blank spelled later =>
    have room : Draft.empty.vacant < Field.all.length + 1 := by decide
    simpa [readObject, skipBlank_append blank] using readMembers_of_spells spelled later room rest

/-! ### Records and rulesets -/

theorem Value.toRecord_of_not_container (no_object : ¬∃ ms, v = .object ms)
    (no_array : ¬∃ vs, v = .array vs) : v.toRecord = .error (v.mismatch .record) := by
  cases v with
  | object ms => exact absurd ⟨ms, rfl⟩ no_object
  | array vs => exact absurd ⟨vs, rfl⟩ no_array
  | _ => rfl

theorem readRecord_of_spells (spelled : Spells v t) (ends : Ends rest) :
    readRecord (t ++ rest) = (·, rest) <$> v.toRecord := by
  have refused := mismatch_of_spells spelled ends .record
  rw [readRecord, skipBlank_spells spelled]
  by_cases object : ∃ ms, v = .object ms
  · obtain ⟨ms, rfl⟩ := object
    obtain - | - | - | - | - | - | members := spelled
    simp only [List.cons_append, readObject_of_spells members, Value.toRecord]
    cases ms.foldlM Draft.putMember Draft.empty with
    | error fault => rfl
    | ok d => cases d.toRecord <;> simp
  by_cases array : ∃ vs, v = .array vs
  · obtain ⟨vs, rfl⟩ := array
    obtain - | - | - | - | - | elements := spelled
    simp only [List.cons_append, Value.toRecord, Field.all, readElements_of_elements elements]
    cases Draft.putElements _ _ _ vs with
    | error fault => rfl
    | ok d => cases d.toRecord <;> simp
  · obtain ⟨c, r, rfl, -, -, -, -, bracket, brace⟩ := spelled.exists_cons
    rw [Value.toRecord_of_not_container object array, ← refused]
    split
    · next same => exact absurd (brace.mp (List.cons.inj same).1) object
    · next same => exact absurd (bracket.mp (List.cons.inj same).1) array
    · rfl

/-- What a ruleset is read from is a record that is judged. -/
def Value.toConfiguration (v : Value) : Except Fault Configuration := do
  judged (← v.toRecord).validate

theorem readConfiguration_of_spells (spelled : Spells v t) (ends : Ends rest) :
    readConfiguration (t ++ rest) = (·, rest) <$> v.toConfiguration := by
  rw [readConfiguration, readRecord_of_spells spelled ends, Value.toConfiguration]
  cases v.toRecord with
  | error fault => rfl
  | ok r =>
    cases judged r.validate <;> simp

theorem readAll_eq_of_map {α : Type} {reader : Reader α} {outcome : Except Fault α}
    (read : reader s = (·, rest) <$> outcome) (blank : Blanks rest) : readAll reader s = outcome := by
  rw [readAll, read]
  cases outcome with
  | error fault => rfl
  | ok a =>
    simp [skipBlank_eq_nil blank]

/-- A record, or a ruleset, is read from a text exactly as it is from the value that the text holds. -/
theorem ofJson_of_writes {text : String} (writes : Writes v text) :
    Record.ofJson text = v.toRecord ∧ Configuration.ofJson text = v.toConfiguration := by
  obtain ⟨blank, spelled, blank', shape⟩ := writes
  next b t b' =>
  have ends : Ends b' := by
    rw [← List.append_nil b']
    exact ends_blanks blank' (fun c none => by cases none)
  have front : readRecord (b ++ (t ++ b')) = readRecord (t ++ b') := by
    rw [readRecord, readRecord, skipBlank_append blank]
  have record : readRecord (b ++ (t ++ b')) = (·, b') <$> v.toRecord := by
    rw [front, readRecord_of_spells spelled ends]
  have configuration : readConfiguration (b ++ (t ++ b')) = (·, b') <$> v.toConfiguration := by
    rw [← readConfiguration_of_spells spelled ends, readConfiguration, readConfiguration, front]
  rw [Record.ofJson, Configuration.ofJson, shape]
  exact ⟨readAll_eq_of_map record blank', readAll_eq_of_map configuration blank'⟩

end LargerThanLife.Json
