import LargerThanLife.Proofs.Json.Judgement
import LargerThanLife.Proofs.Script.Datum
import LargerThanLife.Script.Method
import Mathlib.Data.List.Nodup

/-! Rulesets as dictionaries of a script and as JSON objects. The two are read in different ways: a script
judges all keys first and then looks the fields up one by one, while an object is taken member by member
into a draft. Still both read a record if and only if the dictionary has the data of that record under
the names of the fields, in any order, and nothing else. For a script this is the law of looking up a
key; for JSON the members are first seen to have values that a record can have there, since a draft took
them, and then only the keys matter. -/

namespace LargerThanLife

open Json

/-- Plain data under distinct keys. -/
structure Dictionary where
  entries : List (String × Datum)
  distinct : (entries.map Prod.fst).Nodup

/-- The data of a record under the names of the fields, in order. -/
def Record.entries (r : Record) : List (String × Datum) := Field.all.map fun f => (f.name, r.datum f)

namespace Dictionary

def keys (d : Dictionary) : List String := d.entries.map Prod.fst

/-- A dictionary as the entries of one in a script. -/
def values (d : Dictionary) : List (Script.Value × Script.Value) :=
  d.entries.map fun e => (.text e.1, e.2.value)

/-- A dictionary as the members of a JSON object. -/
def members (d : Dictionary) : List (String × Json.Value) := d.entries.map fun e => (e.1, e.2.tree)

def tree (d : Dictionary) : Json.Value := .ofMembers d.members

/-- A dictionary as JSON text, without blanks. -/
def json (d : Dictionary) : String :=
  String.ofList ('{' :: commaSeparated (d.entries.map fun e => writeMember e.1 e.2.write) ++ ['}'])

/-- The dictionary has the data of the record under the names of the fields, in any order, and nothing
else. -/
def Holds (d : Dictionary) (r : Record) : Prop := d.entries.Perm r.entries

variable {d : Dictionary} {r : Record} {c : Configuration} {key : String} {datum datum' : Datum}

theorem writes_json (d : Dictionary) : Writes d.tree d.json := by
  have spelled := spells_object (fun e : String × Datum => e.2.spells_write) Prod.fst d.entries
  rw [tree, members, Json.Value.ofMembers, List.map_map]
  exact writes_ofList spelled

/-! ### Entries -/

theorem map_fst_entries (r : Record) : r.entries.map Prod.fst = Field.all.map Field.name := by
  rw [Record.entries, List.map_map]
  rfl

theorem mem_entries_iff : (key, datum) ∈ r.entries ↔ ∃ f : Field, key = f.name ∧ datum = r.datum f := by
  simp only [Record.entries, List.mem_map, Field.mem_all, true_and, Prod.mk.injEq, eq_comm]

theorem eq_of_mem (mem : (key, datum) ∈ d.entries) (mem' : (key, datum') ∈ d.entries) :
    datum = datum' := by
  have once := List.inj_on_of_nodup_map d.distinct mem mem' rfl
  exact (Prod.mk.inj once).2

theorem nodup_names (r : Record) : (r.entries.map Prod.fst).Nodup := by
  rw [map_fst_entries]
  decide

theorem holds_iff : d.Holds r ↔
    Record.unknownKeys d.keys = [] ∧ ∀ f : Field, (f.name, r.datum f) ∈ d.entries := by
  constructor
  · intro holds
    have keys : d.keys.Perm (Field.all.map Field.name) := map_fst_entries r ▸ holds.map Prod.fst
    exact ⟨(perm_names_iff.mp keys).1.known,
      fun f => holds.mem_iff.mpr (mem_entries_iff.mpr ⟨f, rfl, rfl⟩)⟩
  · rintro ⟨known, all⟩
    have clean : Clean d.keys := ⟨d.distinct, known⟩
    refine (List.perm_ext_iff_of_nodup d.distinct.of_map (nodup_names r).of_map).mpr ?_
    rintro ⟨key, datum⟩
    rw [mem_entries_iff]
    constructor
    · intro mem
      obtain ⟨f, rfl⟩ := clean.exists_field (List.mem_map.mpr ⟨_, mem, rfl⟩)
      exact ⟨f, rfl, eq_of_mem mem (all f)⟩
    · rintro ⟨f, rfl, rfl⟩
      exact all f

/-! ### In a script -/

@[simp] theorem lookup_values (d : Dictionary) (key : String) :
    Script.Value.lookup (.text key) d.values = (d.entries.lookup key).map Datum.value := by
  rw [values]
  induction d.entries with
  | nil => rfl
  | cons e rest ih =>
    obtain ⟨name, datum⟩ := e
    rw [List.map_cons, Script.Value.lookup, List.lookup_cons, ih]
    by_cases same : name = key
    · simp [Script.Value.same, same]
    · simp [Script.Value.same, same, beq_false_of_ne (Ne.symm same)]

theorem lookup_eq_some_iff : d.entries.lookup key = some datum ↔ (key, datum) ∈ d.entries := by
  have mem_of_lookup {found : Datum} (h : d.entries.lookup key = some found) :
      (key, found) ∈ d.entries := by
    obtain ⟨before, after, split, -⟩ := List.lookup_eq_some_iff.mp h
    rw [split]
    exact List.mem_append_right before List.mem_cons_self
  refine ⟨mem_of_lookup, fun mem => ?_⟩
  cases found : d.entries.lookup key with
  | none => exact absurd rfl (bne_iff_ne.mp (List.lookup_eq_none_iff.mp found _ mem))
  | some other => rw [eq_of_mem mem (mem_of_lookup found)]

theorem fieldValue_eq_ok_iff {α : Type} {convert : Script.Value → Except Script.Failure α} {a : α} :
    Script.fieldValue d.values key convert = .ok a ↔
      ∃ datum, (key, datum) ∈ d.entries ∧ convert datum.value = .ok a := by
  simp only [Script.fieldValue, lookup_values, ← lookup_eq_some_iff]
  cases d.entries.lookup key <;> simp

@[simp] theorem map_asText_values (showBoard : ℕ → String) (d : Dictionary) :
    (d.values.map fun e => e.1.asText showBoard) = d.keys := by
  rw [values, keys, List.map_map]
  rfl

/-- A script reads a record from its own data, in any order, and from nothing else. -/
theorem toRecord_values {showBoard : ℕ → String} :
    Script.toRecord showBoard d.values = .ok r ↔ d.Holds r := by
  rw [holds_iff, Script.toRecord, map_asText_values]
  split
  · next known =>
    simp only [bind_eq_ok_iff, pure_eq_ok_iff, fieldValue_eq_ok_iff, Datum.toInt64_value,
      Datum.toPair_value, Datum.toText_value, exists_eq_right, known, true_and]
    constructor
    · rintro ⟨radius, first, depth, second, aging, third, survival, fourth, birth, fifth, code, sixth,
        rfl⟩ f
      cases f with
      | radius => exact first
      | decayStates => exact second
      | agingEnabled => exact third
      | survivalInterval => exact fourth
      | birthInterval => exact fifth
      | neighbourhoodCode => exact sixth
    · intro all
      exact ⟨_, all .radius, _, all .decayStates, _, all .agingEnabled, _, all .survivalInterval, _,
        all .birthInterval, _, all .neighbourhoodCode, rfl⟩
  · next unknown =>
    exact iff_of_false (fun read => by cases read) fun holds => unknown holds.1

theorem ofDictionary_values {showBoard : ℕ → String} :
    Script.ofDictionary showBoard d.values = .ok c ↔ d.Holds (Record.ofConfiguration c) := by
  have lift_eq_ok_iff {outcome : Except LargerThanLife.Fault Configuration} :
      Script.lift outcome = .ok c ↔ outcome = .ok c := by
    cases outcome <;> simp [Script.lift]
  simp [Script.ofDictionary, toRecord_values, lift_eq_ok_iff, Record.validate_eq_ok_iff_eq]

/-! ### In JSON -/

@[simp] theorem mem_members_iff {v : Json.Value} :
    (key, v) ∈ d.members ↔ ∃ datum, (key, datum) ∈ d.entries ∧ datum.tree = v := by
  simp [members]

/-- What is read as a record has no value under the name of a field that a record cannot have there. -/
theorem typed_members_of_toRecord (read : d.tree.toRecord = .ok r) : Typed d.members := by
  obtain ⟨draft, put, -⟩ := bind_eq_ok_iff.mp read
  intro f v mem
  obtain ⟨datum, -, rfl⟩ := mem_members_iff.mp mem
  obtain ⟨e, e', taken⟩ := Draft.exists_putMember put _ (List.mem_map_of_mem mem)
  obtain ⟨g, name, -, taken⟩ := Draft.putMember_eq_ok_iff.mp taken
  obtain rfl := Field.name_injective (Option.some.inj name)
  obtain ⟨r', rfl⟩ := Record.exists_datum_of_putValue taken
  exact ⟨r', r'.tree_datum f⟩

theorem map_tree_entries (r : Record) :
    (r.entries.map fun e => (e.1, e.2.tree)) = membersOf r.value Field.all := by
  rw [Record.entries, membersOf, List.map_map]
  exact List.map_congr_left fun f _ => congrArg (f.name, ·) (r.tree_datum f)

/-- A record is read from the JSON object of its own data, in any order, and from nothing else. -/
theorem toRecord_tree : d.tree.toRecord = .ok r ↔ d.Holds r := by
  constructor
  · intro read
    have typed := typed_members_of_toRecord read
    have keys : d.keys = d.members.map Prod.fst := by
      rw [keys, members, List.map_map]
      rfl
    have names : d.keys.Perm (Field.all.map Field.name) :=
      keys ▸ (exists_toRecord_iff typed).mp ⟨r, read⟩
    refine holds_iff.mpr ⟨(perm_names_iff.mp names).1.known, fun f => ?_⟩
    obtain ⟨datum, mem, same⟩ := mem_members_iff.mp ((mem_iff_of_toRecord typed read f _).mpr rfl)
    rw [← r.tree_datum] at same
    exact Datum.tree_injective same ▸ mem
  · intro holds
    have order : d.members.Perm (membersOf r.value Field.all) := by
      rw [← map_tree_entries r]
      exact holds.map _
    exact toRecord_of_perm (typed_members r Field.all) order (toRecord_membersOf r)

theorem ofJson_of_writes_tree {text : String} (writes : Writes d.tree text) :
    Configuration.ofJson text = .ok c ↔ d.Holds (Record.ofConfiguration c) := by
  simp only [ofJson_eq_ok_iff, (ofJson_of_writes writes).1, toRecord_tree, Record.validate_eq_ok_iff_eq,
    exists_eq_right]

/-! ### What does not fit -/

/-- What keeps a dictionary from being a ruleset whatever else it has: the key of no field, a field
without a key, an integer that does not fit into 64 bits, a list that is no pair. -/
inductive Misfit (d : Dictionary) : Prop
  | extra {key : String} (mem : key ∈ d.keys) (unknown : ∀ f : Field, f.name ≠ key)
  | missing {f : Field} (absent : f.name ∉ d.keys)
  | wide {key : String} {datum : Datum} {n : ℤ} (mem : (key, datum) ∈ d.entries)
      (part : n ∈ datum.integers) (outside : n < Int64.minValue.toInt ∨ Int64.maxValue.toInt < n)
  | length {key : String} {ns : List ℤ} (mem : (key, .list ns) ∈ d.entries) (noPair : ns.length ≠ 2)

@[simp] theorem mem_keys_iff : key ∈ d.keys ↔ ∃ datum, (key, datum) ∈ d.entries := by
  simp [keys]

theorem Misfit.not_holds (misfit : d.Misfit) : ¬d.Holds r := by
  intro holds
  have stored {key : String} {datum : Datum} (mem : (key, datum) ∈ d.entries) :
      ∃ f : Field, key = f.name ∧ datum = r.datum f := mem_entries_iff.mp (holds.mem_iff.mp mem)
  cases misfit with
  | extra mem unknown =>
    obtain ⟨datum, mem⟩ := mem_keys_iff.mp mem
    obtain ⟨f, rfl, -⟩ := stored mem
    exact unknown f rfl
  | @missing f absent =>
    exact absent (mem_keys_iff.mpr ⟨_, (holds_iff.mp holds).2 f⟩)
  | wide mem part outside =>
    obtain ⟨f, -, rfl⟩ := stored mem
    obtain ⟨i, rfl⟩ := Record.exists_toInt_eq part
    have low : Int64.minValue.toInt ≤ i.toInt := i.le_toInt
    have high : i.toInt < 9223372036854775808 := i.toInt_lt
    have greatest : Int64.maxValue.toInt = 9223372036854775807 := rfl
    omega
  | length mem noPair =>
    obtain ⟨f, -, same⟩ := stored mem
    exact noPair (Record.length_of_datum_eq_list same.symm)

end Dictionary

/-! ### Calls of a script -/

def Record.dictionary (r : Record) : Dictionary :=
  ⟨r.entries, Dictionary.nodup_names r⟩

namespace Script

/-- A record is written under the names of its fields, in their order. -/
theorem ofRecord_eq (r : Record) : ofRecord r = r.dictionary.values := rfl

def Session.fromDict (s : Session) (entries : List (Value × Value)) :
    Except Failure (Value × Session) :=
  (callClass .ruleset "from_dict" ⟨[.dict entries], []⟩).run s

def Session.toDict (s : Session) (c : Configuration) : Except Failure (Value × Session) :=
  (callValue (.ruleset c) "to_dict" ⟨[], []⟩).run s

theorem Session.toDict_eq (s : Session) (c : Configuration) :
    s.toDict c = .ok (.dict (Record.ofConfiguration c).dictionary.values, s) := by
  rw [← ofRecord_eq]
  rfl

theorem Session.fromDict_eq (s : Session) (entries : List (Value × Value)) :
    s.fromDict entries =
      (fun c => (.ruleset c, s)) <$> ofDictionary (showBoard s.boards) entries := by
  change (do return Value.ruleset (← ofDictionary (showBoard s.boards) entries) : Run Value).run s = _
  cases ofDictionary (showBoard s.boards) entries <;> rfl

theorem Session.fromDict_eq_ok_iff {s : Session} {d : Dictionary} {c : Configuration} :
    s.fromDict d.values = .ok (.ruleset c, s) ↔ d.Holds (Record.ofConfiguration c) := by
  simp [fromDict_eq, Dictionary.ofDictionary_values]

theorem Session.fromDict_eq_error_iff {s : Session} {d : Dictionary} :
    (∃ failure, s.fromDict d.values = .error failure) ↔
      ∀ c, ¬d.Holds (Record.ofConfiguration c) := by
  simp [fromDict_eq, exists_error_iff, Dictionary.ofDictionary_values]

end Script

namespace Dictionary

theorem holds_dictionary (r : Record) : r.dictionary.Holds r := List.Perm.refl _

/-- Every ruleset comes back from its own dictionary. A dictionary of plain data is a ruleset for a
script if and only if it is the same one for JSON, however its text is spelled; both refuse all that is
not the data of a ruleset, so also what does not fit. -/
theorem read_as_json (s : Script.Session) :
    (∀ c : Configuration, ∃ d : Dictionary,
      s.toDict c = .ok (.dict d.values, s) ∧ s.fromDict d.values = .ok (.ruleset c, s)) ∧
    ∀ d : Dictionary, Writes d.tree d.json ∧ ∀ text, Writes d.tree text →
      (∀ c, s.fromDict d.values = .ok (.ruleset c, s) ↔ Configuration.ofJson text = .ok c) ∧
      (∀ c, Configuration.ofJson text = .ok c ↔ d.entries.Perm (Record.ofConfiguration c).entries) ∧
      ((∃ failure, s.fromDict d.values = .error failure) ↔
        ∃ fault, Configuration.ofJson text = .error fault) ∧
      (d.Misfit → (∃ failure, s.fromDict d.values = .error failure) ∧
        ∃ fault, Configuration.ofJson text = .error fault) := by
  constructor
  · intro c
    exact ⟨_, s.toDict_eq c, Script.Session.fromDict_eq_ok_iff.mpr (holds_dictionary _)⟩
  · intro d
    refine ⟨d.writes_json, fun text writes => ?_⟩
    have accepts (c : Configuration) : Configuration.ofJson text = .ok c ↔
        d.Holds (Record.ofConfiguration c) := ofJson_of_writes_tree writes
    have refuses : (∃ fault, Configuration.ofJson text = .error fault) ↔
        ∀ c, ¬d.Holds (Record.ofConfiguration c) := by
      simp only [exists_error_iff, ne_eq, accepts]
    refine ⟨fun c => Script.Session.fromDict_eq_ok_iff.trans (accepts c).symm, accepts,
      Script.Session.fromDict_eq_error_iff.trans refuses.symm, fun misfit => ?_⟩
    exact ⟨Script.Session.fromDict_eq_error_iff.mpr fun _ => misfit.not_holds,
      refuses.mpr fun _ => misfit.not_holds⟩

/-- The fields of a stored ruleset the other way round, and one with a radius just above 64 bits. -/
theorem read_as_json_reversed :
    ∃ (d wide : Dictionary) (c : Configuration), d.entries = Record.greatest.entries.reverse ∧
      Writes d.tree d.json ∧ Record.ofConfiguration c = Record.greatest ∧
      Script.Session.start.fromDict d.values = .ok (.ruleset c, .start) ∧
      Configuration.ofJson d.json = .ok c ∧
      wide.entries =
        (Field.radius.name, .integer 9223372036854775808) :: Record.greatest.entries.tail ∧
      wide.Misfit ∧
      Writes wide.tree wide.json ∧
      (∃ failure, Script.Session.start.fromDict wide.values = .error failure) ∧
      ∃ fault, Configuration.ofJson wide.json = .error fault := by
  obtain ⟨c, valid⟩ : ∃ c, Record.greatest.validate = .ok c := ⟨_, rfl⟩
  have stored : Record.ofConfiguration c = Record.greatest :=
    (Record.validate_eq_ok_iff_eq.mp valid).symm
  let d : Dictionary := ⟨Record.greatest.entries.reverse, by decide⟩
  let wide : Dictionary :=
    ⟨(Field.radius.name, .integer 9223372036854775808) :: Record.greatest.entries.tail, by decide⟩
  obtain ⟨-, reads⟩ := read_as_json .start
  obtain ⟨writes, agree⟩ := reads d
  obtain ⟨same, accepts, -⟩ := agree d.json writes
  have read : Configuration.ofJson d.json = .ok c :=
    (accepts c).mpr (stored ▸ List.reverse_perm _)
  have misfit : wide.Misfit := .wide List.mem_cons_self List.mem_cons_self (.inr (by decide))
  obtain ⟨written, refuse⟩ := reads wide
  obtain ⟨-, -, -, refused⟩ := refuse wide.json written
  exact ⟨d, wide, c, rfl, writes, stored, (same c).mpr read, read, rfl, misfit, written, refused misfit⟩

end Dictionary

end LargerThanLife
