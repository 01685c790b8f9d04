import LargerThanLife.Proofs.Json.Members

/-! The two forms of a record. An array of six values and the object that has them under the names of
the fields, in order, are read alike, whatever values they are: the same record or ruleset is read from
both, or the same is wrong with both. Member by member and element by element the draft is the same, as
no key is unknown or repeated and no value is missing or left over. -/

namespace LargerThanLife.Json

namespace Draft

variable {d : Draft}

/-- A draft without a value under a field takes a member for it as it takes an element. -/
theorem putMember_name {f : Field} (room : d.has f = false) (v : Value) :
    d.putMember (some f.name, v) = d.putValue f v := by
  simp [putMember, room]

/-- Elements for the given fields are put as members are, if a draft has none of these fields. -/
theorem putElements_eq_foldlM {fields : List Field} (values : Field → Value) (index : Nat)
    (distinct : fields.Nodup) (room : ∀ f ∈ fields, d.has f = false) :
    putElements fields index d (fields.map values) =
      (fields.map fun f => (some f.name, values f)).foldlM putMember d := by
  induction fields generalizing index d with
  | nil => rfl
  | cons f fields ih =>
    rw [List.map_cons, List.map_cons, List.foldlM_cons, putElements,
      putMember_name (room f List.mem_cons_self)]
    cases put : d.putValue f (values f) with
    | error fault => rfl
    | ok d' =>
      have left : ∀ g ∈ fields, d'.has g = false := fun g mem => by
        have other : g ≠ f := fun same => (List.nodup_cons.mp distinct).1 (same ▸ mem)
        rw [has_of_putValue put, room g (List.mem_cons_of_mem f mem)]
        simp [other]
      exact ih (index + 1) (List.nodup_cons.mp distinct).2 left

end Draft

variable {values : Field → Value} {array object : String}

theorem toRecord_forms (values : Field → Value) :
    (Value.array (Field.all.map values)).toRecord =
      (Value.ofMembers (membersOf values Field.all)).toRecord := by
  have put := Draft.putElements_eq_foldlM values 0 (by decide : Field.all.Nodup)
    (by decide : ∀ f ∈ Field.all, Draft.empty.has f = false)
  rw [Value.ofMembers, membersOf, List.map_map, Value.toRecord, Value.toRecord, put]
  rfl

/-- Whatever six values there are, a record is read from their array as it is from the object that has
them under the names of the fields in order, and so is a ruleset: what is read is the same, and so is
what is wrong. The values of a record give that record. -/
theorem ofJson_forms (array_writes : Writes (.array (Field.all.map values)) array)
    (object_writes : Writes (.ofMembers (membersOf values Field.all)) object) :
    Record.ofJson array = Record.ofJson object ∧
      Configuration.ofJson array = Configuration.ofJson object ∧
      ∀ r : Record, values = r.value → Record.ofJson array = .ok r := by
  obtain ⟨array_record, array_configuration⟩ := ofJson_of_writes array_writes
  obtain ⟨object_record, object_configuration⟩ := ofJson_of_writes object_writes
  refine ⟨?_, ?_, ?_⟩
  · rw [array_record, object_record, toRecord_forms]
  · rw [array_configuration, object_configuration, Value.toConfiguration, Value.toConfiguration,
      toRecord_forms]
  · rintro r rfl
    rw [array_record, toRecord_forms, toRecord_membersOf]

/-- Values of all kinds, most of which do not fit their fields. -/
def mixed : Field → Value
  | .radius => .ofInteger 1
  | .decayStates => .null
  | .agingEnabled => .boolean true
  | .survivalInterval => .array [.ofInteger 2]
  | .birthInterval => .object []
  | .neighbourhoodCode => .text (some "NM")

theorem spells_mixed (f : Field) : Spells (mixed f) (match f with
    | .radius => "1".toList
    | .decayStates => "null".toList
    | .agingEnabled => "true".toList
    | .survivalInterval => "[2]".toList
    | .birthInterval => ['{', '}']
    | .neighbourhoodCode => "\"NM\"".toList) := by
  cases f with
  | radius => exact spells_writeInteger 1
  | decayStates => exact .null
  | agingEnabled => exact .yes
  | survivalInterval => exact .array (.first blanks_nil (spells_writeInteger 2) (.close blanks_nil))
  | birthInterval => exact .object (.empty blanks_nil)
  | neighbourhoodCode => exact .text (spellsString_escape "NM")

def mixedArray : String := "[1,null,true,[2],{},\"NM\"]"

def mixedObject : String :=
  "\x7b\"radius\":1,\"decayStates\":null,\"agingEnabled\":true,\"survivalInterval\":[2]," ++
    "\"birthInterval\":\x7b\x7d,\"neighbourhoodCode\":\"NM\"\x7d"

theorem ofJson_forms_mixed :
    Writes (.array (Field.all.map mixed)) mixedArray ∧
      Writes (.ofMembers (membersOf mixed Field.all)) mixedObject ∧
      Record.ofJson mixedArray = Record.ofJson mixedObject := by
  have array_writes : Writes (.array (Field.all.map mixed)) mixedArray :=
    writes_array spells_mixed .radius Field.all.tail
  have object_writes : Writes (.ofMembers (membersOf mixed Field.all)) mixedObject :=
    writes_object spells_mixed .radius Field.all.tail
  exact ⟨array_writes, object_writes, (ofJson_forms array_writes object_writes).1⟩

end LargerThanLife.Json
