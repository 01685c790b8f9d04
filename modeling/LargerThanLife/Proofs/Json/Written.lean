import LargerThanLife.Proofs.Json.Grammar
import LargerThanLife.Proofs.Json.RoundTrip

/-! Written values. What is written for a record is well formed, and it spells the value that the
record has under each of its fields: an integer, an array of two integers or a text. Values of any
number, well written each, make a well-written array, and under any keys a well-written object; so any
values do under the fields, in any order. -/

namespace LargerThanLife

open Json

/-- An integer of 64 bits as it stands in a text. Zero has no sign. -/
def Json.Value.ofInteger (n : Int64) : Value :=
  .number ⟨decide (n.toInt < 0), Text.Numeral.write n.toInt.natAbs, none, none⟩

/-- An integer of any size as it stands in a text. -/
def Json.Value.ofInt (n : ℤ) : Value :=
  .number ⟨decide (n < 0), Text.Numeral.write n.natAbs, none, none⟩

def Json.Value.ofMembers (members : List (String × Value)) : Value :=
  .object (members.map fun m => (some m.1, m.2))

namespace Record

/-- The value that a record has under a field. -/
def value (r : Record) : Field → Value
  | .radius => .ofInteger r.radius
  | .decayStates => .ofInteger r.decayStates
  | .agingEnabled => .ofInteger r.agingEnabled
  | .survivalInterval => .array [.ofInteger r.survivalInterval.1, .ofInteger r.survivalInterval.2]
  | .birthInterval => .array [.ofInteger r.birthInterval.1, .ofInteger r.birthInterval.2]
  | .neighbourhoodCode => .text (some r.neighbourhoodCode)

end Record

namespace Json

/-- The members that have the values of the given fields under their names. -/
def membersOf (values : Field → Value) (fields : List Field) : List (String × Value) :=
  fields.map fun f => (f.name, values f)

theorem blanks_nil : Blanks [] := fun _ none => absurd none List.not_mem_nil

theorem spellsPiece_escape (c : Char) : SpellsPiece (.char c) (escape c) := by
  rcases escape_cases c with
    ⟨e, written, -, short⟩ | ⟨written, control⟩ | ⟨written, quote, backslash, plain⟩
  · rw [written]
    exact .short short
  · -- a control character has two zeros in front of its two digits
    have zero : Text.hexValue '0' = some 0 := by decide
    have digits :
        Hex ['0', '0', Text.hexDigit (c.toNat / 16), Text.hexDigit (c.toNat % 16)] c.toNat := by
      have value : ((0 * 16 + 0) * 16 + c.toNat / 16) * 16 + c.toNat % 16 = c.toNat := by omega
      have hex := Hex.mk zero zero (hexValue_hexDigit (by omega : c.toNat / 16 < 16))
        (hexValue_hexDigit (by omega : c.toNat % 16 < 16))
      rwa [value] at hex
    obtain ⟨high, low⟩ := not_surrogate_of_lt control
    have spelled := SpellsPiece.number digits high low
    rwa [Char.ofNat_toNat, ← written] at spelled
  · rw [written]
    exact .plain quote backslash plain

theorem spellsPieces_escape (s : List Char) :
    List.Forall₂ SpellsPiece (s.map .char) (s.map escape) := by
  rw [List.forall₂_map_left_iff, List.forall₂_map_right_iff, List.forall₂_same]
  exact fun c _ => spellsPiece_escape c

theorem join?_map_char (s : List Char) : join? (s.map .char) = some s := by
  induction s with
  | nil => rfl
  | cons c s ih => rw [List.map_cons, join?, ih, Option.map_some]

theorem spellsString_escape (s : String) :
    SpellsString (some s) (s.toList.flatMap escape ++ ['"']) := by
  have spelled := SpellsString.mk (spellsPieces_escape s.toList)
  rwa [join?_map_char, Option.map_some, String.ofList_toList, ← List.flatMap_def] at spelled

theorem spells_writeInt (n : ℤ) : Spells (.ofInt n) (Text.Numeral.writeInt n) := by
  have spelled {negative : Bool} {sign : List Char} (signed : SpellsSign negative sign) :=
    SpellsNumeral.mk signed (Text.Numeral.digits_write n.natAbs) (write_ne_zero_cons _) .absent .absent
  simp only [List.append_nil] at spelled
  refine .number ?_
  rw [Text.Numeral.writeInt]
  split
  · next negative => rw [decide_eq_true negative]; exact spelled .minus
  · next natural => rw [decide_eq_false natural]; exact spelled .plus

theorem spells_writeInteger (n : Int64) : Spells (.ofInteger n) (writeInteger n) :=
  spells_writeInt n.toInt

theorem spells_writePair (p : Int64 × Int64) :
    Spells (.array [.ofInteger p.1, .ofInteger p.2]) (writePair p) := by
  have second := SpellsFurther.comma blanks_nil blanks_nil (spells_writeInteger p.2) (.close blanks_nil)
  have spelled := Spells.array (.first blanks_nil (spells_writeInteger p.1) second)
  simpa [writePair] using spelled

theorem spells_writeField (r : Record) (f : Field) : Spells (r.value f) (writeField r f) := by
  cases f with
  | radius => exact spells_writeInteger _
  | decayStates => exact spells_writeInteger _
  | agingEnabled => exact spells_writeInteger _
  | survivalInterval => exact spells_writePair _
  | birthInterval => exact spells_writePair _
  | neighbourhoodCode =>
    rw [writeField, quote, List.cons_append]
    exact .text (spellsString_escape r.neighbourhoodCode)

/-! ### Objects and arrays -/

theorem spellsMember_written (key : String) {v : Value} {t : List Char} (spelled : Spells v t) :
    ∃ u, writeMember key t = '"' :: u ∧ SpellsMember (some key, v) u := by
  refine ⟨_, ?_, .mk (spellsString_escape key) blanks_nil blanks_nil spelled⟩
  simp [writeMember, quote]

theorem commaSeparated_cons (t : List Char) (ts : List (List Char)) :
    commaSeparated (t :: ts) = t ++ (ts.map (',' :: ·)).flatten := by
  induction ts generalizing t with
  | nil => simp [commaSeparated]
  | cons u ts ih => rw [commaSeparated, ih]; simp

section

variable {ι : Type} {values : ι → Value} {written : ι → List Char}

theorem spellsLater_written (spelled : ∀ i, Spells (values i) (written i)) (key : ι → String)
    (is : List ι) : SpellsLater (is.map fun i => (some (key i), values i))
      ((is.map fun i => ',' :: writeMember (key i) (written i)).flatten ++ ['}']) := by
  induction is with
  | nil => exact .close blanks_nil
  | cons i is ih =>
    obtain ⟨t, member, spelled⟩ := spellsMember_written (key i) (spelled i)
    have later := SpellsLater.comma blanks_nil blanks_nil spelled ih
    simpa [member] using later

theorem spellsFurther_written (spelled : ∀ i, Spells (values i) (written i)) (is : List ι) :
    SpellsFurther (is.map values) ((is.map fun i => ',' :: written i).flatten ++ [']']) := by
  induction is with
  | nil => exact .close blanks_nil
  | cons i is ih => simpa using SpellsFurther.comma blanks_nil blanks_nil (spelled i) ih

/-- Written members with commas between them are an object. -/
theorem spells_object (spelled : ∀ i, Spells (values i) (written i)) (key : ι → String)
    (is : List ι) : Spells (.object (is.map fun i => (some (key i), values i)))
      ('{' :: commaSeparated (is.map fun i => writeMember (key i) (written i)) ++ ['}']) := by
  cases is with
  | nil => exact .object (.empty blanks_nil)
  | cons i is =>
    obtain ⟨t, member, first⟩ := spellsMember_written (key i) (spelled i)
    have object := Spells.object (.first blanks_nil first (spellsLater_written spelled key is))
    simpa [commaSeparated_cons, member, Function.comp_def] using object

/-- Written values with commas between them are an array. -/
theorem spells_array (spelled : ∀ i, Spells (values i) (written i)) (is : List ι) :
    Spells (.array (is.map values)) ('[' :: commaSeparated (is.map written) ++ [']']) := by
  cases is with
  | nil => exact .array (.empty blanks_nil)
  | cons i is =>
    have array := Spells.array (.first blanks_nil (spelled i) (spellsFurther_written spelled is))
    simpa [commaSeparated_cons, Function.comp_def] using array

end

theorem writes_ofList {v : Value} {t : List Char} (spelled : Spells v t) :
    Writes v (String.ofList t) :=
  .mk blanks_nil spelled blanks_nil (by simp)

variable {values : Field → Value} {written : Field → List Char}

/-- Members for any fields, in any order, are written as an object. -/
theorem writes_object (spelled : ∀ f, Spells (values f) (written f)) (f : Field) (fields : List Field) :
    Writes (.ofMembers (membersOf values (f :: fields))) (String.ofList
      ('{' :: commaSeparated ((f :: fields).map fun f => writeMember f.name (written f)) ++ ['}'])) := by
  rw [Value.ofMembers, membersOf, List.map_map]
  exact writes_ofList (spells_object spelled Field.name (f :: fields))

/-- Values of any fields, in any order, are written as an array. -/
theorem writes_array (spelled : ∀ f, Spells (values f) (written f)) (f : Field) (fields : List Field) :
    Writes (.array ((f :: fields).map values))
      (String.ofList ('[' :: commaSeparated ((f :: fields).map written) ++ [']'])) :=
  writes_ofList (spells_array spelled (f :: fields))

end Json

end LargerThanLife
