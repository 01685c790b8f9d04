import LargerThanLife.Proofs.Json.Tree
import LargerThanLife.Proofs.Json.Written
import Mathlib.Data.List.Perm.Basic

/-! Records as objects. The members of an object may stand in any order, as long as each field is
among them once and nothing else is. Whether that is so is a matter of the keys: from the first member
on, each has to name a field that none before it names; and at the end no field may be absent. One
lemma says what a draft holds after members that are clean in this sense, by induction on the last of
them, and each flaw of the keys shows at the draft that is reached when it is met. -/

namespace LargerThanLife.Json

/-! ### Values of fields -/

theorem Value.toInteger_ofInt {k : ℤ} {n : Int64} :
    (Value.ofInt k).toInteger = .ok n ↔ k = n.toInt := by
  have low := n.le_toInt
  have high := n.toInt_lt
  simp only [ofInt, toInteger, found, Numeral.value, integer?_int]
  by_cases short : -9223372036854775808 ≤ k ∧ k ≤ 18446744073709551615
  · simp only [if_pos short, Except.map_ok, NumberValue.found]
    split
    · next fits =>
      constructor
      · intro same
        cases same
        exact (Int64.toInt_ofInt_of_le (by omega) (by omega)).symm
      · rintro rfl
        rw [Int64.ofInt_toInt]
    · next wide => exact iff_of_false (fun taken => by cases taken) (by omega)
  · -- what does not fit is no integer any more, or no number at all
    refine iff_of_false ?_ (by omega)
    simp only [if_neg short]
    generalize Numeral.magnitude _ = magnitude
    cases magnitude with
    | none => exact fun taken => by cases taken
    | some m => exact fun taken => by cases taken

@[simp] theorem Value.toInteger_ofInteger (n : Int64) : (Value.ofInteger n).toInteger = .ok n :=
  toInteger_ofInt.mpr rfl

namespace Draft

/-- The value that a draft has under a field. -/
def value? (d : Draft) : Field → Option Value
  | .radius => d.radius.map .ofInteger
  | .decayStates => d.decayStates.map .ofInteger
  | .agingEnabled => d.agingEnabled.map .ofInteger
  | .survivalInterval => d.survivalInterval.map fun p => .array [.ofInteger p.1, .ofInteger p.2]
  | .birthInterval => d.birthInterval.map fun p => .array [.ofInteger p.1, .ofInteger p.2]
  | .neighbourhoodCode => d.neighbourhoodCode.map fun code => .text (some code)

variable {d : Draft} {r : Record}

/-- Of members that are taken together, some draft takes each by itself. -/
theorem exists_putMember {ms : List (Option String × Value)} {d' : Draft}
    (put : ms.foldlM putMember d = .ok d') : ∀ m ∈ ms, ∃ e e' : Draft, e.putMember m = .ok e' := by
  induction ms generalizing d with
  | nil => exact fun m none => absurd none List.not_mem_nil
  | cons m ms ih =>
    rw [List.foldlM_cons] at put
    obtain ⟨next, first, rest⟩ := bind_eq_ok_iff.mp put
    exact List.forall_mem_cons.mpr ⟨⟨d, next, first⟩, ih rest⟩

theorem has_eq_isSome (d : Draft) (f : Field) : d.has f = (d.value? f).isSome := by
  cases f <;> simp [has, value?]

theorem putValue_value (d : Draft) (r : Record) (f : Field) :
    d.putValue f (r.value f) = .ok (d.put r f) := by
  cases f <;>
    simp [putValue, Record.value, put, Value.toPair, Value.toText]

@[simp] theorem value?_put (d : Draft) (r : Record) (f g : Field) :
    (d.put r f).value? g = if g = f then some (r.value f) else d.value? g := by
  cases f <;> cases g <;> simp [put, value?, Record.value]

/-- A draft is a record if it has a value under each field, and otherwise the first field without one
is missing. -/
theorem toRecord_cases (d : Draft) :
    (∃ f, Field.all.find? (fun f => !d.has f) = some f ∧
        d.toRecord = .error (.mismatch (.missing f))) ∨
      ∃ r, d.toRecord = .ok r ∧ ∀ f, d.value? f = some (r.value f) := by
  obtain ⟨radius, depth, aging, survival, birth, code⟩ := d
  rcases radius with - | radius
  · exact .inl ⟨.radius, rfl, rfl⟩
  rcases depth with - | depth
  · exact .inl ⟨.decayStates, rfl, rfl⟩
  rcases aging with - | aging
  · exact .inl ⟨.agingEnabled, rfl, rfl⟩
  rcases survival with - | survival
  · exact .inl ⟨.survivalInterval, rfl, rfl⟩
  rcases birth with - | birth
  · exact .inl ⟨.birthInterval, rfl, rfl⟩
  rcases code with - | code
  · exact .inl ⟨.neighbourhoodCode, rfl, rfl⟩
  · exact .inr ⟨⟨radius, depth, aging, survival, birth, code⟩, rfl, fun f => by cases f <;> rfl⟩

end Draft

/-- A record has its own values and no other one has. -/
theorem value_injective {r r' : Record} (same : ∀ f, r.value f = r'.value f) : r = r' := by
  have put_eq (d : Draft) (f : Field) : d.put r f = d.put r' f := by
    have put := d.putValue_value r f
    rw [same, Draft.putValue_value] at put
    exact (Except.ok.inj put).symm
  have all_eq :
      Field.all.foldl (Draft.put r) Draft.empty = Field.all.foldl (Draft.put r') Draft.empty :=
    congrArg (Field.all.foldl · Draft.empty) (funext fun d => funext (put_eq d))
  exact Except.ok.inj ((all_eq ▸ Draft.toRecord_put_all r).symm.trans (Draft.toRecord_put_all r'))

/-! ### Keys -/

/-- The keys name fields, and no field twice. -/
structure Clean (keys : List String) : Prop where
  nodup : keys.Nodup
  known : Record.unknownKeys keys = []

/-- What is wrong with the keys of an object: the first of them that names no field or repeats an
earlier one, or else the first field that is absent. -/
inductive Flaw (keys : List String) : Mismatch → Prop
  | unknown {earlier later : List String} {key : String} : keys = earlier ++ key :: later →
    Clean earlier → key ∈ Record.unknownKeys keys → Flaw keys (.unknownKey key)
  | duplicate {earlier later : List String} {field : Field} : keys = earlier ++ field.name :: later →
    Clean earlier → field.name ∈ earlier → Flaw keys (.duplicate field)
  | missing {field : Field} : Clean keys → Field.all.find? (fun f => f.name ∉ keys) = some field →
    Flaw keys (.missing field)

variable {keys : List String} {key : String}

theorem mem_fieldNames_iff : key ∈ Record.fieldNames ↔ ∃ f : Field, key = f.name := by
  simp only [Record.fieldNames_eq, List.mem_map, Field.mem_all, true_and, eq_comm]

theorem ofKey?_eq_none_iff : ofKey? key = none ↔ key ∉ Record.fieldNames := by
  simp only [Option.eq_none_iff_forall_ne_some, ne_eq, ofKey?_eq_some_iff, mem_fieldNames_iff,
    not_exists]

theorem mem_unknownKeys_iff :
    key ∈ Record.unknownKeys keys ↔ key ∈ keys ∧ ofKey? key = none := by
  simp [Record.unknownKeys, ofKey?_eq_none_iff]

theorem Clean.exists_field (clean : Clean keys) (mem : key ∈ keys) : ∃ f : Field, key = f.name := by
  cases known : ofKey? key with
  | some f => exact ⟨f, ofKey?_eq_some_iff.mp known⟩
  | none =>
    have unknown := mem_unknownKeys_iff.mpr ⟨mem, known⟩
    rw [clean.known] at unknown
    cases unknown

theorem clean_append_singleton_iff : Clean (keys ++ [key]) ↔
    Clean keys ∧ key ∉ keys ∧ ∃ f : Field, key = f.name := by
  constructor
  · intro clean
    have parts := List.nodup_append.mp clean.nodup
    have known := clean.known
    rw [Record.unknownKeys, List.filter_append, List.append_eq_nil_iff] at known
    exact ⟨⟨parts.1, known.1⟩, fun mem => parts.2.2 key mem key List.mem_cons_self rfl,
      clean.exists_field (List.mem_append_right keys List.mem_cons_self)⟩
  · rintro ⟨clean, fresh, f, rfl⟩
    have known : f.name ∈ Record.fieldNames := mem_fieldNames_iff.mpr ⟨f, rfl⟩
    refine ⟨List.nodup_append.mpr ⟨clean.nodup, by simp, ?_⟩, ?_⟩
    · rintro key mem _ last rfl
      exact fresh (List.mem_singleton.mp last ▸ mem)
    · have earlier := clean.known
      rw [Record.unknownKeys] at earlier ⊢
      rw [List.filter_append, earlier]
      simp [known]

theorem perm_names_iff : keys.Perm (Field.all.map Field.name) ↔
    Clean keys ∧ ∀ f : Field, f.name ∈ keys := by
  have names_nodup : (Field.all.map Field.name).Nodup := by decide
  have mem_names (key : String) : key ∈ Field.all.map Field.name ↔ ∃ f : Field, key = f.name := by
    simp only [List.mem_map, Field.mem_all, true_and, eq_comm]
  constructor
  · intro perm
    refine ⟨⟨perm.nodup_iff.mpr names_nodup, ?_⟩,
      fun f => perm.mem_iff.mpr ((mem_names _).mpr ⟨f, rfl⟩)⟩
    rw [List.eq_nil_iff_forall_not_mem]
    intro key unknown
    obtain ⟨mem, none⟩ := mem_unknownKeys_iff.mp unknown
    obtain ⟨f, named⟩ := (mem_names key).mp (perm.mem_iff.mp mem)
    rw [ofKey?_eq_some_iff.mpr named] at none
    cases none
  · rintro ⟨clean, all⟩
    rw [List.perm_ext_iff_of_nodup clean.nodup names_nodup]
    intro key
    rw [mem_names]
    constructor
    · exact clean.exists_field
    · rintro ⟨f, rfl⟩
      exact all f

/-- Keys that are not clean have a first one that is to blame. -/
theorem exists_clean_prefix (unclean : ¬Clean keys) : ∃ earlier key later,
    keys = earlier ++ key :: later ∧ Clean earlier ∧ ¬Clean (earlier ++ [key]) := by
  induction keys using List.reverseRecOn with
  | nil => exact absurd ⟨List.nodup_nil, rfl⟩ unclean
  | append_singleton keys key ih =>
    by_cases clean : Clean keys
    · exact ⟨keys, key, [], rfl, clean, unclean⟩
    · obtain ⟨earlier, first, later, rfl, clean, blamed⟩ := ih clean
      exact ⟨earlier, first, later ++ [key], by simp, clean, blamed⟩

theorem exists_flaw (other : ¬keys.Perm (Field.all.map Field.name)) : ∃ m, Flaw keys m := by
  by_cases clean : Clean keys
  · -- then a field is absent
    have absent : ∃ f ∈ Field.all, f.name ∉ keys := by
      by_contra none
      push Not at none
      exact other (perm_names_iff.mpr ⟨clean, fun f => none f (Field.mem_all f)⟩)
    obtain ⟨f, mem, absent⟩ := absent
    cases first : Field.all.find? (fun f => decide (f.name ∉ keys)) with
    | some f => exact ⟨_, .missing clean first⟩
    | none => exact absurd (List.find?_eq_none.mp first f mem) (by simpa using absent)
  · obtain ⟨earlier, key, later, shape, clean, blamed⟩ := exists_clean_prefix clean
    cases known : ofKey? key with
    | none =>
      have mem : key ∈ keys := by
        rw [shape]
        exact List.mem_append_right earlier List.mem_cons_self
      exact ⟨_, .unknown shape clean (mem_unknownKeys_iff.mpr ⟨mem, known⟩)⟩
    | some f =>
      obtain rfl := ofKey?_eq_some_iff.mp known
      have repeated : f.name ∈ earlier := by
        by_contra fresh
        exact blamed (clean_append_singleton_iff.mpr ⟨clean, fresh, f, rfl⟩)
      exact ⟨_, .duplicate shape clean repeated⟩

/-! ### Members -/

/-- Each value under the name of a field is one that a record can have there. -/
def Typed (members : List (String × Value)) : Prop :=
  ∀ (f : Field) v, (f.name, v) ∈ members → ∃ r : Record, v = r.value f

def draftOf (members : List (String × Value)) : Except Fault Draft :=
  (members.map fun m => (some m.1, m.2)).foldlM Draft.putMember Draft.empty

variable {members : List (String × Value)}

@[simp] theorem typed_append_iff {later : List (String × Value)} :
    Typed (members ++ later) ↔ Typed members ∧ Typed later := by
  simp only [Typed, List.mem_append, or_imp, forall_and]

theorem draftOf_append (members later : List (String × Value)) : draftOf (members ++ later) =
    draftOf members >>= fun d => (later.map fun m => (some m.1, m.2)).foldlM Draft.putMember d := by
  rw [draftOf, draftOf, List.map_append, List.foldlM_append]

/-- After clean members, a draft has their values and no others. -/
theorem exists_draftOf (typed : Typed members) (clean : Clean (members.map Prod.fst)) :
    ∃ d, draftOf members = .ok d ∧ ∀ f v, d.value? f = some v ↔ (f.name, v) ∈ members := by
  induction members using List.reverseRecOn with
  | nil =>
    refine ⟨Draft.empty, rfl, fun f v => ?_⟩
    cases f <;> simp [Draft.empty, Draft.value?]
  | append_singleton members m ih =>
    rw [List.map_append, List.map_singleton] at clean
    obtain ⟨before, fresh, f, named⟩ := clean_append_singleton_iff.mp clean
    obtain ⟨d, found, holds⟩ := ih (typed_append_iff.mp typed).1 before
    obtain ⟨key, v⟩ := m
    obtain rfl : key = f.name := named
    obtain ⟨r, rfl⟩ := typed f v (List.mem_append_right members List.mem_cons_self)
    have other (w : Value) : (f.name, w) ∉ members := fun mem => fresh (List.mem_map.mpr ⟨_, mem, rfl⟩)
    have room : d.has f = false := by
      rw [Draft.has_eq_isSome, Option.isSome_eq_false_iff, Option.isNone_iff_eq_none,
        Option.eq_none_iff_forall_ne_some]
      exact fun w held => other w ((holds f w).mp held)
    have put : d.putMember (some f.name, r.value f) = .ok (d.put r f) :=
      Draft.putMember_eq_ok_iff.mpr ⟨f, rfl, room, d.putValue_value r f⟩
    refine ⟨d.put r f, ?_, fun g v => ?_⟩
    · simp [draftOf_append, found, put]
    · rw [Draft.value?_put, List.mem_append, List.mem_singleton, ← holds g v]
      by_cases same : g = f
      · subst same
        have none : d.value? g ≠ some v := fun held => other v ((holds g v).mp held)
        simp [none, eq_comm]
      · have names : g.name ≠ f.name := fun h => same (Field.name_injective h)
        simp [same, names]

theorem has_iff_mem {d : Draft} (holds : ∀ f v, d.value? f = some v ↔ (f.name, v) ∈ members)
    (f : Field) : d.has f ↔ f.name ∈ members.map Prod.fst := by
  rw [Draft.has_eq_isSome, Option.isSome_iff_exists]
  simp only [holds, List.mem_map, Prod.exists, exists_and_right, exists_eq_right]

/-- The member that follows clean ones is met by a draft that has their fields and no others. -/
theorem exists_draftOf_eq_bind {earlier later : List String} (typed : Typed members)
    (shape : members.map Prod.fst = earlier ++ key :: later) (clean : Clean earlier) :
    ∃ (d : Draft) (v : Value) (next : Draft → Except Fault Draft),
      draftOf members = d.putMember (some key, v) >>= next ∧ ∀ f, d.has f ↔ f.name ∈ earlier := by
  obtain ⟨before, rest, rfl, rfl, tail⟩ := List.map_eq_append_iff.mp shape
  obtain ⟨⟨key, v⟩, after, rfl, rfl, -⟩ := List.map_eq_cons_iff.mp tail
  obtain ⟨d, found, holds⟩ := exists_draftOf (typed_append_iff.mp typed).1 clean
  refine ⟨d, v, fun d => (after.map fun m => (some m.1, m.2)).foldlM Draft.putMember d, ?_,
    has_iff_mem holds⟩
  rw [draftOf_append, found, ok_bind, List.map_cons, List.foldlM_cons]

theorem draftOf_of_unknown {earlier later : List String} (typed : Typed members)
    (shape : members.map Prod.fst = earlier ++ key :: later) (clean : Clean earlier)
    (unknown : ofKey? key = none) : draftOf members = .error (.mismatch (.unknownKey key)) := by
  obtain ⟨d, v, next, draft_eq, -⟩ := exists_draftOf_eq_bind typed shape clean
  simp [draft_eq, Draft.putMember, unknown]

theorem draftOf_of_duplicate {earlier later : List String} {f : Field} (typed : Typed members)
    (shape : members.map Prod.fst = earlier ++ f.name :: later) (clean : Clean earlier)
    (repeated : f.name ∈ earlier) : draftOf members = .error (.mismatch (.duplicate f)) := by
  obtain ⟨d, v, next, draft_eq, has⟩ := exists_draftOf_eq_bind typed shape clean
  simp [draft_eq, Draft.putMember, (has f).mpr repeated]

/-! ### Objects -/

theorem toRecord_ofMembers (members : List (String × Value)) :
    (Value.ofMembers members).toRecord = draftOf members >>= Draft.toRecord := rfl

theorem toRecord_of_flaw {m : Mismatch} (typed : Typed members) (flaw : Flaw (members.map Prod.fst) m) :
    (Value.ofMembers members).toRecord = .error (.mismatch m) := by
  rw [toRecord_ofMembers]
  cases flaw with
  | unknown shape clean unknown =>
    simp [draftOf_of_unknown typed shape clean (mem_unknownKeys_iff.mp unknown).2]
  | duplicate shape clean repeated =>
    simp [draftOf_of_duplicate typed shape clean repeated]
  | @missing field clean first =>
    obtain ⟨d, found, holds⟩ := exists_draftOf typed clean
    have lacks (f : Field) : (!d.has f) = decide (f.name ∉ members.map Prod.fst) := by
      rw [Bool.eq_iff_iff, Bool.not_eq_true', ← Bool.not_eq_true, has_iff_mem holds, decide_eq_true_eq]
    simp only [← lacks] at first
    rw [found, ok_bind]
    rcases d.toRecord_cases with ⟨f, first', missing⟩ | ⟨r, -, full⟩
    · rw [missing, Option.some.inj (first'.symm.trans first)]
    · have absent := List.find?_some first
      rw [Draft.has_eq_isSome, full] at absent
      cases absent

theorem exists_toRecord (typed : Typed members)
    (perm : (members.map Prod.fst).Perm (Field.all.map Field.name)) :
    ∃ r, (Value.ofMembers members).toRecord = .ok r ∧
      ∀ (f : Field) v, (f.name, v) ∈ members ↔ v = r.value f := by
  obtain ⟨clean, all⟩ := perm_names_iff.mp perm
  obtain ⟨d, found, holds⟩ := exists_draftOf typed clean
  rw [toRecord_ofMembers, found, ok_bind]
  rcases d.toRecord_cases with ⟨f, lacks, -⟩ | ⟨r, complete, full⟩
  · have absent := List.find?_some lacks
    rw [(has_iff_mem holds f).mpr (all f)] at absent
    cases absent
  · refine ⟨r, complete, fun f v => ?_⟩
    rw [← holds, full, Option.some.injEq, eq_comm]

theorem exists_toRecord_iff (typed : Typed members) :
    (∃ r, (Value.ofMembers members).toRecord = .ok r) ↔
      (members.map Prod.fst).Perm (Field.all.map Field.name) := by
  constructor
  · rintro ⟨r, read⟩
    by_contra other
    obtain ⟨m, flaw⟩ := exists_flaw other
    rw [toRecord_of_flaw typed flaw] at read
    cases read
  · intro perm
    obtain ⟨r, read, -⟩ := exists_toRecord typed perm
    exact ⟨r, read⟩

theorem mem_iff_of_toRecord {r : Record} (typed : Typed members)
    (read : (Value.ofMembers members).toRecord = .ok r) (f : Field) (v : Value) :
    (f.name, v) ∈ members ↔ v = r.value f := by
  obtain ⟨r', read', values⟩ := exists_toRecord typed ((exists_toRecord_iff typed).mp ⟨r, read⟩)
  rw [read'] at read
  cases read
  exact values f v

theorem typed_members (r : Record) (fields : List Field) : Typed (membersOf r.value fields) := by
  intro f v mem
  obtain ⟨g, -, same⟩ := List.mem_map.mp mem
  obtain ⟨name, rfl⟩ := Prod.mk.inj same
  rw [Field.name_injective name]
  exact ⟨r, rfl⟩

/-- A record is read from its own members. -/
theorem toRecord_membersOf (r : Record) :
    (Value.ofMembers (membersOf r.value Field.all)).toRecord = .ok r := by
  have typed := typed_members r Field.all
  have keys : (membersOf r.value Field.all).map Prod.fst = Field.all.map Field.name := by
    rw [membersOf, List.map_map]
    rfl
  obtain ⟨r', read, values⟩ := exists_toRecord typed (keys ▸ List.Perm.refl _)
  have same : r = r' := value_injective fun f =>
    (values f _).mp (List.mem_map.mpr ⟨f, Field.mem_all f, rfl⟩)
  rw [read, same]

/-- The order of the members does not matter to what they are read as. -/
theorem toRecord_of_perm {reordered : List (String × Value)} {r : Record} (typed : Typed members)
    (order : reordered.Perm members) (read : (Value.ofMembers members).toRecord = .ok r) :
    (Value.ofMembers reordered).toRecord = .ok r := by
  have typed' : Typed reordered := fun f v mem => typed f v (order.mem_iff.mp mem)
  have keys := (order.map Prod.fst).trans ((exists_toRecord_iff typed).mp ⟨r, read⟩)
  obtain ⟨r', read', values'⟩ := exists_toRecord typed' keys
  have same : r' = r := value_injective fun f =>
    (mem_iff_of_toRecord typed read f _).mp (order.mem_iff.mp ((values' f _).mpr rfl))
  rw [read', same]

theorem toRecord_eq_error_iff {fault : Fault} (typed : Typed members) :
    (Value.ofMembers members).toRecord = .error fault ↔
      ∃ m, Flaw (members.map Prod.fst) m ∧ fault = .mismatch m := by
  constructor
  · intro refused
    have other : ¬(members.map Prod.fst).Perm (Field.all.map Field.name) := by
      rw [← exists_toRecord_iff typed, refused]
      rintro ⟨r, read⟩
      cases read
    obtain ⟨m, flaw⟩ := exists_flaw other
    rw [toRecord_of_flaw typed flaw] at refused
    exact ⟨m, flaw, (Except.error.inj refused).symm⟩
  · rintro ⟨m, flaw, rfl⟩
    exact toRecord_of_flaw typed flaw

/-- An object whose values fit their fields is read as a record exactly if its keys are the names of
the fields, each once and in any order; the record has the value of each key, so any other order gives
the same one. Otherwise the first key that names no field or repeats an earlier one is to blame, or,
if there is none, the first field that is absent. Blanks and escapes do not matter. -/
theorem members_judged {text : String} (typed : Typed members)
    (writes : Writes (.ofMembers members) text) :
    ((∃ r, Record.ofJson text = .ok r) ↔ (members.map Prod.fst).Perm (Field.all.map Field.name)) ∧
      (∀ r, Record.ofJson text = .ok r →
        (∀ (f : Field) v, (f.name, v) ∈ members ↔ v = r.value f) ∧
          ∀ reordered text', reordered.Perm members → Writes (.ofMembers reordered) text' →
            Record.ofJson text' = .ok r) ∧
      ∀ fault, Record.ofJson text = .error fault ↔
        ∃ m, Flaw (members.map Prod.fst) m ∧ fault = .mismatch m := by
  rw [(ofJson_of_writes writes).1]
  refine ⟨exists_toRecord_iff typed, fun r read => ⟨mem_iff_of_toRecord typed read, ?_⟩,
    fun fault => toRecord_eq_error_iff typed⟩
  intro reordered text' order writes'
  rw [(ofJson_of_writes writes').1]
  exact toRecord_of_perm typed order read

/-- The record `awkward` with its members in reversed order. -/
def awkwardReversed : String :=
  String.ofList ('{' :: commaSeparated (Field.all.reverse.map (memberOf awkward)) ++ ['}'])

/-- A key that is written in two ways, with blanks around it once. -/
def radiusTwice : String := "\x7b \"\\u0072adius\" : 1,\"radius\":2\x7d"

theorem writes_radiusTwice :
    Writes (.ofMembers [("radius", .ofInteger 1), ("radius", .ofInteger 2)]) radiusTwice := by
  have blank : Blanks [' '] := by simp [Blanks, isBlank]
  have r : SpellsPiece (.char 'r') ['\\', 'u', '0', '0', '7', '2'] :=
    .number (.mk (by rfl : _ = some 0) (by rfl : _ = some 0) (by rfl : _ = some 7)
      (by rfl : _ = some 2)) rfl rfl
  have key : SpellsString (some "radius") "\\u0072adius\"".toList :=
    .mk (.cons r (spellsPieces_escape "adius".toList))
  have first : SpellsMember (some "radius", .ofInteger 1) "\\u0072adius\" : 1".toList :=
    .mk key blank blank (spells_writeInteger 1)
  have second : SpellsMember (some "radius", .ofInteger 2) "radius\":2".toList :=
    .mk (spellsString_escape "radius") blanks_nil blanks_nil (spells_writeInteger 2)
  have object :=
    Spells.object (.first blank first (.comma blanks_nil blanks_nil second (.close blanks_nil)))
  exact .mk blanks_nil object blanks_nil rfl

theorem members_judged_reversed :
    Typed (membersOf awkward.value Field.all.reverse) ∧
      Writes (.ofMembers (membersOf awkward.value Field.all.reverse)) awkwardReversed ∧
      Record.ofJson awkwardReversed = .ok awkward ∧
      Record.ofJson radiusTwice = .error (.mismatch (.duplicate .radius)) := by
  have typed := typed_members awkward Field.all.reverse
  have writes : Writes (.ofMembers (membersOf awkward.value Field.all.reverse)) awkwardReversed :=
    writes_object (spells_writeField awkward) _ _
  have judged := members_judged typed writes
  have perm :
      ((membersOf awkward.value Field.all.reverse).map Prod.fst).Perm (Field.all.map Field.name) := by
    decide
  obtain ⟨r, read⟩ := judged.1.mpr perm
  have same : awkward = r := value_injective fun f => by
    refine ((judged.2.1 r read).1 f _).mp (List.mem_map.mpr ⟨f, ?_, rfl⟩)
    exact List.mem_reverse.mpr (Field.mem_all f)
  refine ⟨typed, writes, same ▸ read, ?_⟩
  have typed' : Typed [("radius", .ofInteger 1), ("radius", .ofInteger 2)] :=
    typed_append_iff.mpr ⟨typed_members { awkward with radius := 1 } [.radius],
      typed_members { awkward with radius := 2 } [.radius]⟩
  refine ((members_judged typed' writes_radiusTwice).2.2 _).mpr ⟨_, ?_, rfl⟩
  exact .duplicate (by rfl : _ = ["radius"] ++ Field.radius.name :: []) ⟨by simp, rfl⟩
    List.mem_cons_self

end LargerThanLife.Json
