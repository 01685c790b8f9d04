import LargerThanLife.Proofs.Json.Members
import LargerThanLife.Script.Dictionary

/-! Plain data, in a script and in JSON. A datum is an integer of any size, a list of such integers or a
text. A script has it as a value of its own, and a JSON text spells it; what is asked of the one to be
an integer of 64 bits, a pair of these or a text is asked of the other. -/

namespace LargerThanLife

open Json

/-- An integer of any size, a list of such integers, or a text. -/
inductive Datum where
  | integer (n : ℤ)
  | list (ns : List ℤ)
  | text (s : String)
  deriving DecidableEq, Repr

namespace Datum

/-- A datum as a value of a script. -/
def value : Datum → Script.Value
  | integer n => .integer n
  | list ns => .list (ns.map .integer)
  | text s => .text s

/-- A datum as a JSON value. -/
def tree : Datum → Json.Value
  | integer n => .ofInt n
  | list ns => .array (ns.map .ofInt)
  | text s => .text (some s)

/-- A datum as JSON text, without blanks. -/
def write : Datum → List Char
  | integer n => Text.Numeral.writeInt n
  | list ns => '[' :: commaSeparated (ns.map Text.Numeral.writeInt) ++ [']']
  | text s => quote s.toList

def integers : Datum → List ℤ
  | integer n => [n]
  | list ns => ns
  | text _ => []

variable {d : Datum}

theorem spells_write (d : Datum) : Spells d.tree d.write := by
  cases d with
  | integer n => exact spells_writeInt n
  | list ns => exact spells_array spells_writeInt ns
  | text s =>
    rw [write, quote, List.cons_append]
    exact .text (spellsString_escape s)

/-! ### In a script -/

@[simp] theorem toInt64_integer {k : ℤ} {n : Int64} :
    Script.toInt64 (.integer k) = .ok n ↔ k = n.toInt := by
  have low := n.le_toInt
  have high := n.toInt_lt
  simp only [Script.toInt64, Script.toIntegerIn, map_eq_ok_iff]
  constructor
  · rintro ⟨m, taken, rfl⟩
    split at taken
    · next fits =>
      obtain ⟨least, greatest⟩ : -9223372036854775808 ≤ k ∧ k ≤ 9223372036854775807 := fits
      cases taken
      exact (Int64.toInt_ofInt_of_le (by omega) (by omega)).symm
    · cases taken
  · rintro rfl
    refine ⟨n.toInt, if_pos ?_, n.ofInt_toInt⟩
    change -9223372036854775808 ≤ n.toInt ∧ n.toInt ≤ 9223372036854775807
    omega

@[simp] theorem toInt64_value {n : Int64} : Script.toInt64 d.value = .ok n ↔ d = .integer n.toInt := by
  cases d with
  | integer k => rw [value, toInt64_integer, integer.injEq]
  | list ns => simp [value, Script.toInt64, Script.toIntegerIn]
  | text s => simp [value, Script.toInt64, Script.toIntegerIn]

theorem toPair_of_items {v : Script.Value} {items : List Script.Value} {p : Int64 × Int64}
    (sequence : Script.toItems v = .ok items) : Script.toPair v = .ok p ↔
      ∃ a b, items = [a, b] ∧ Script.toInt64 a = .ok p.1 ∧ Script.toInt64 b = .ok p.2 := by
  rw [Script.toPair, sequence, ok_bind]
  split
  · next a b =>
    simp only [bind_eq_ok_iff, pure_eq_ok_iff]
    constructor
    · rintro ⟨m, first, n, second, rfl⟩
      exact ⟨a, b, rfl, first, second⟩
    · rintro ⟨_, _, two, first, second⟩
      cases two
      exact ⟨p.1, first, p.2, second, rfl⟩
  · next other =>
    refine iff_of_false (fun taken => by cases taken) ?_
    rintro ⟨a, b, rfl, -⟩
    exact other a b rfl

@[simp] theorem toPair_value {p : Int64 × Int64} :
    Script.toPair d.value = .ok p ↔ d = .list [p.1.toInt, p.2.toInt] := by
  cases d with
  | integer k => exact iff_of_false (fun taken => by cases taken) (by simp)
  | list ns =>
    rw [value, toPair_of_items rfl, list.injEq]
    constructor
    · rintro ⟨a, b, two, first, second⟩
      obtain ⟨m, ms, rfl, rfl, one⟩ := List.map_eq_cons_iff.mp two
      obtain ⟨n, ns, rfl, rfl, none⟩ := List.map_eq_cons_iff.mp one
      rw [toInt64_integer.mp first, toInt64_integer.mp second, List.map_eq_nil_iff.mp none]
    · rintro rfl
      exact ⟨_, _, rfl, toInt64_integer.mpr rfl, toInt64_integer.mpr rfl⟩
  | text s =>
    -- a text of two characters is a sequence of two items, but these are no integers
    rw [value, toPair_of_items rfl]
    refine iff_of_false ?_ (by simp)
    rintro ⟨a, b, two, first, -⟩
    obtain ⟨c, cs, -, rfl, -⟩ := List.map_eq_cons_iff.mp two
    cases first

@[simp] theorem toText_value {s : String} : Script.toText d.value = .ok s ↔ d = .text s := by
  cases d <;> simp [value, Script.toText]

/-! ### In JSON -/

@[simp] theorem toInteger_tree {n : Int64} : d.tree.toInteger = .ok n ↔ d = .integer n.toInt := by
  cases d with
  | integer k => rw [tree, Json.Value.toInteger_ofInt, integer.injEq]
  | list ns => simp [tree, Json.Value.toInteger, Json.Value.found]
  | text s => exact iff_of_false (fun taken => by cases taken) (by simp)

@[simp] theorem toPair_tree {p : Int64 × Int64} :
    d.tree.toPair = .ok p ↔ d = .list [p.1.toInt, p.2.toInt] := by
  cases d with
  | integer k => exact iff_of_false (fun taken => by cases taken) (by simp)
  | text s => exact iff_of_false (fun taken => by cases taken) (by simp)
  | list ns =>
    rw [tree, list.injEq]
    rcases ns with - | ⟨m, - | ⟨n, - | ⟨l, ns⟩⟩⟩
    · exact iff_of_false (fun taken => by cases taken) (by simp)
    · refine iff_of_false (fun taken => ?_) (by simp)
      obtain ⟨_, -, refused⟩ := bind_eq_ok_iff.mp taken
      cases refused
    · simp only [List.map_cons, List.map_nil, Json.Value.toPair, bind_eq_ok_iff, Json.Value.toInteger_ofInt]
      constructor
      · rintro ⟨_, rfl, _, rfl, taken⟩
        cases taken
        rfl
      · intro same
        simp only [List.cons.injEq, and_true] at same
        exact ⟨p.1, same.1, p.2, same.2, rfl⟩
    · refine iff_of_false (fun taken => ?_) (by simp)
      simp only [List.map_cons, Json.Value.toPair, bind_eq_ok_iff] at taken
      obtain ⟨_, -, _, -, refused⟩ := taken
      cases refused

@[simp] theorem toText_tree {s : String} : d.tree.toText = .ok s ↔ d = .text s := by
  cases d with
  | text s => simp [tree, Json.Value.toText]
  | integer k => exact iff_of_false (fun taken => by cases taken) (by simp)
  | list ns => exact iff_of_false (fun taken => by cases taken) (by simp)

theorem ofInt_injective {m n : ℤ} (same : Json.Value.ofInt m = .ofInt n) : m = n := by
  simp only [Json.Value.ofInt, Json.Value.number.injEq, Numeral.mk.injEq, decide_eq_decide,
    and_true] at same
  obtain ⟨sign, digits⟩ := same
  have size : m.natAbs = n.natAbs := by
    simpa using congrArg Text.Numeral.readDigits digits
  omega

theorem tree_injective {d d' : Datum} (same : d.tree = d'.tree) : d = d' := by
  cases d with
  | integer m =>
    cases d' with
    | integer n => rw [ofInt_injective same]
    | list ns => cases same
    | text s => cases same
  | list ms =>
    cases d' with
    | integer n => cases same
    | list ns =>
      have maps : ms.map Json.Value.ofInt = ns.map Json.Value.ofInt := Json.Value.array.inj same
      rw [List.map_injective_iff.mpr (fun _ _ => ofInt_injective) maps]
    | text s => cases same
  | text s =>
    cases d' with
    | text s' => rw [Option.some.inj (Json.Value.text.inj same)]
    | integer n => cases same
    | list ns => cases same

end Datum

/-! ### Of a record -/

/-- The datum that a record has under a field. -/
def Record.datum (r : Record) : Field → Datum
  | .radius => .integer r.radius.toInt
  | .decayStates => .integer r.decayStates.toInt
  | .agingEnabled => .integer r.agingEnabled.toInt
  | .survivalInterval => .list [r.survivalInterval.1.toInt, r.survivalInterval.2.toInt]
  | .birthInterval => .list [r.birthInterval.1.toInt, r.birthInterval.2.toInt]
  | .neighbourhoodCode => .text r.neighbourhoodCode

namespace Record

@[simp] theorem tree_datum (r : Record) (f : Field) : (r.datum f).tree = r.value f := by
  cases f <;> rfl

/-- A draft takes a datum under a field only if a record can have it there. -/
theorem exists_datum_of_putValue {d : Datum} {f : Field} {draft draft' : Draft}
    (put : draft.putValue f d.tree = .ok draft') : ∃ r : Record, d = r.datum f := by
  cases f with
  | radius | decayStates | agingEnabled =>
    obtain ⟨n, taken, -⟩ := map_eq_ok_iff.mp put
    exact ⟨⟨n, n, n, (n, n), (n, n), ""⟩, Datum.toInteger_tree.mp taken⟩
  | survivalInterval | birthInterval =>
    obtain ⟨p, taken, -⟩ := map_eq_ok_iff.mp put
    exact ⟨⟨p.1, p.1, p.1, p, p, ""⟩, Datum.toPair_tree.mp taken⟩
  | neighbourhoodCode =>
    obtain ⟨code, taken, -⟩ := map_eq_ok_iff.mp put
    exact ⟨⟨0, 0, 0, (0, 0), (0, 0), code⟩, Datum.toText_tree.mp taken⟩

/-- The integers of a record have 64 bits. -/
theorem exists_toInt_eq {r : Record} {f : Field} {n : ℤ} (mem : n ∈ (r.datum f).integers) :
    ∃ i : Int64, n = i.toInt := by
  cases f <;> simp only [datum, Datum.integers, List.mem_cons, List.not_mem_nil, or_false] at mem
  · exact ⟨_, mem⟩
  · exact ⟨_, mem⟩
  · exact ⟨_, mem⟩
  · exact mem.elim (fun first => ⟨_, first⟩) fun second => ⟨_, second⟩
  · exact mem.elim (fun first => ⟨_, first⟩) fun second => ⟨_, second⟩

/-- The lists of a record are pairs. -/
theorem length_of_datum_eq_list {r : Record} {f : Field} {ns : List ℤ} (same : r.datum f = .list ns) :
    ns.length = 2 := by
  cases f with
  | survivalInterval | birthInterval =>
    cases same
    rfl
  | _ => cases same

end Record

end LargerThanLife
