import LargerThanLife.Proofs.Json.Token
import LargerThanLife.Proofs.Record.Validity

/-! Stored rulesets, read back from the text that they are written as. A field is read from its value,
whatever draft it is read into; the members of an object fill the draft field by field; and the draft
that has all fields is the record. Nothing of the text is left over but the blanks behind it. -/

namespace LargerThanLife.Json

open Text

variable {rest s : List Char} {r : Record}

/-! ### Blanks -/

/-- The characters that values, elements and members begin or end with are no blanks. -/
@[simp] theorem isBlank_of_mem_marks {c : Char} (mark : c ∈ ['"', ',', ':', '[', ']', '{', '}']) :
    isBlank c = false := by
  simp only [List.mem_cons, List.not_mem_nil, or_false] at mark
  rcases mark with rfl | rfl | rfl | rfl | rfl | rfl | rfl <;> rfl

@[simp] theorem skipBlank_append {blanks : List Char} (blank : ∀ c ∈ blanks, isBlank c) (s : List Char) :
    skipBlank (blanks ++ s) = skipBlank s :=
  List.dropWhile_append_of_pos blank

@[simp] theorem skipBlank_cons {c : Char} (h : isBlank c = false) (s : List Char) :
    skipBlank (c :: s) = c :: s := by
  simp [skipBlank, h]

@[simp] theorem skipBlank_eq_nil {blanks : List Char} (blank : ∀ c ∈ blanks, isBlank c) :
    skipBlank blanks = [] := by
  rw [← List.append_nil blanks, skipBlank_append blank, skipBlank, List.dropWhile_nil]

/-! ### Values -/

theorem ends_cons {c : Char} (h : c = ',' ∨ c = ']' ∨ c = '}') (s : List Char) : Ends (c :: s) := by
  intro d hd
  obtain rfl : c = d := Option.some.inj hd
  rcases h with rfl | rfl | rfl <;> decide

/-- An integer begins with neither a blank nor a bracket. -/
theorem exists_writeInteger_eq_cons (n : Int64) :
    ∃ c t, writeInteger n = c :: t ∧ isBlank c = false ∧ c ≠ ']' := by
  have first : ∀ c ∈ writeInteger n, isBlank c = false ∧ c ≠ ']' := by
    intro c hc
    rcases Numeral.isDigit_or_minus_of_mem_writeInt hc with digit | rfl
    · have other (d : Char) (h : d.isDigit = false) : c ≠ d := by
        rintro rfl
        rw [digit] at h
        cases h
      refine ⟨?_, other ']' rfl⟩
      simp [isBlank, other ' ' rfl, other '\t' rfl, other '\n' rfl, other '\r' rfl]
    · decide
  cases written : writeInteger n with
  | nil =>
    rw [writeInteger, Numeral.writeInt] at written
    split at written
    · cases written
    · exact absurd written (Numeral.write_ne_nil _)
  | cons c t => exact ⟨c, t, rfl, first c (by rw [written]; exact List.mem_cons_self)⟩

theorem skipBlank_writeInteger (n : Int64) (s : List Char) :
    skipBlank (writeInteger n ++ s) = writeInteger n ++ s := by
  obtain ⟨c, t, written, not_blank, -⟩ := exists_writeInteger_eq_cons n
  rw [written, List.cons_append, skipBlank_cons not_blank]

theorem readInteger_writeInteger (n : Int64) (ends : Ends rest) :
    readInteger (writeInteger n ++ rest) = .ok (n, rest) := by
  have small : n.toInt < 1 <<< 63 := n.toInt_lt
  simp only [readInteger, skipBlank_writeInteger, readNumber_writeInteger n ends, if_pos small,
    Int64.ofInt_toInt]

@[simp] theorem nextElement_zero {expected : Expected} (n : Int64) (s : List Char) :
    nextElement 0 expected (writeInteger n ++ s) = .ok (writeInteger n ++ s) := by
  obtain ⟨c, t, written, not_blank, not_bracket⟩ := exists_writeInteger_eq_cons n
  simp [nextElement, written, not_blank, not_bracket]

@[simp] theorem nextElement_comma {index : Nat} {expected : Expected} (later : index ≠ 0) (n : Int64)
    (s : List Char) :
    nextElement index expected (',' :: (writeInteger n ++ s)) = .ok (writeInteger n ++ s) := by
  obtain ⟨c, t, written, not_blank, not_bracket⟩ := exists_writeInteger_eq_cons n
  simp [nextElement, later, written, not_blank, not_bracket]

@[simp] theorem closeArray_cons (s : List Char) : closeArray (']' :: s) = .ok s := by
  simp [closeArray]

@[simp] theorem readPair_writePair (p : Int64 × Int64) (rest : List Char) :
    readPair (writePair p ++ rest) = .ok (p, rest) := by
  have text : writePair p ++ rest =
      '[' :: (writeInteger p.1 ++ ',' :: (writeInteger p.2 ++ ']' :: rest)) := by
    simp [writePair]
  simp [text, readPair, readInteger_writeInteger p.1 (ends_cons (.inl rfl) _),
    readInteger_writeInteger p.2 (ends_cons (.inr (.inl rfl)) _)]

@[simp] theorem readText_quote (code : String) (rest : List Char) :
    readText (quote code.toList ++ rest) = .ok (code, rest) := by
  have text : quote code.toList ++ rest = '"' :: (code.toList.flatMap escape ++ '"' :: rest) := by
    simp [quote]
  simp [text, readText]

/-! ### Fields -/

def Draft.put (r : Record) (d : Draft) : Field → Draft
  | .radius => { d with radius := some r.radius }
  | .decayStates => { d with decayStates := some r.decayStates }
  | .agingEnabled => { d with agingEnabled := some r.agingEnabled }
  | .survivalInterval => { d with survivalInterval := some r.survivalInterval }
  | .birthInterval => { d with birthInterval := some r.birthInterval }
  | .neighbourhoodCode => { d with neighbourhoodCode := some r.neighbourhoodCode }

@[simp] theorem Draft.has_put (d : Draft) (f g : Field) : (d.put r f).has g = (d.has g || g == f) := by
  cases f <;> cases g <;> simp [put, has]

@[simp] theorem Draft.toRecord_put_all (r : Record) :
    (Field.all.foldl (put r) empty).toRecord = .ok r := rfl

theorem readField_writeField (d : Draft) (f : Field) (ends : Ends rest) :
    readField f d (writeField r f ++ rest) = .ok (d.put r f, rest) := by
  cases f with
  | radius => rw [readField, writeField, readInteger_writeInteger _ ends]; rfl
  | decayStates => rw [readField, writeField, readInteger_writeInteger _ ends]; rfl
  | agingEnabled => rw [readField, writeField, readInteger_writeInteger _ ends]; rfl
  | survivalInterval => rw [readField, writeField, readPair_writePair]; rfl
  | birthInterval => rw [readField, writeField, readPair_writePair]; rfl
  | neighbourhoodCode => rw [readField, writeField, readText_quote]; rfl

/-! ### Members -/

def memberOf (r : Record) (f : Field) : List Char := writeMember f.name (writeField r f)

theorem readMember_memberOf {d : Draft} {f : Field} (fresh : d.has f = false) (ends : Ends rest)
    (text : memberOf r f ++ rest = '"' :: s) : readMember d s = .ok (d.put r f, rest) := by
  have body : s = f.name.toList.flatMap escape ++ '"' :: ':' :: (writeField r f ++ rest) := by
    simpa [memberOf, writeMember, quote] using text.symm
  simp [body, readMember, fresh, readField_writeField d f ends]

theorem exists_members_eq_cons (r : Record) (f : Field) (fs : List Field) (s : List Char) :
    ∃ t, commaSeparated ((f :: fs).map (memberOf r)) ++ s = '"' :: t := by
  cases fs with
  | nil => exact ⟨_, rfl⟩
  | cons g gs => exact ⟨_, rfl⟩

/-- The members of fields that a draft does not have yet are all put into it, one after another. -/
theorem readMembers_memberOf {fs : List Field} {f : Field} {count : Nat} {d : Draft}
    (distinct : (f :: fs).Nodup) (fresh : ∀ g ∈ f :: fs, d.has g = false)
    (enough : fs.length < count)
    (text : commaSeparated ((f :: fs).map (memberOf r)) ++ '}' :: rest = '"' :: s) :
    readMembers count d s = .ok ((f :: fs).foldl (Draft.put r) d, rest) := by
  induction fs generalizing f count d s with
  | nil =>
    obtain ⟨count, rfl⟩ := Nat.exists_eq_succ_of_ne_zero (Nat.ne_zero_of_lt enough)
    have read := readMember_memberOf (fresh f List.mem_cons_self)
      (ends_cons (.inr (.inr rfl)) rest) text
    simp [readMembers, read]
  | cons g gs ih =>
    obtain ⟨count, rfl⟩ := Nat.exists_eq_succ_of_ne_zero (Nat.ne_zero_of_lt enough)
    obtain ⟨t, later⟩ := exists_members_eq_cons r g gs ('}' :: rest)
    have split : memberOf r f ++ ',' :: '"' :: t = '"' :: s := by
      rw [← text, ← later]
      simp [commaSeparated]
    have read := readMember_memberOf (fresh f List.mem_cons_self) (ends_cons (.inl rfl) _) split
    -- the fields to come are other ones, so the draft does not have them now either
    have still_fresh : ∀ h ∈ g :: gs, (d.put r f).has h = false := by
      intro h hh
      have other : h ≠ f := fun same => (List.nodup_cons.mp distinct).1 (same ▸ hh)
      rw [Draft.has_put, fresh h (List.mem_cons_of_mem f hh), beq_false_of_ne other, Bool.or_self]
    have ahead := ih (List.nodup_cons.mp distinct).2 still_fresh (Nat.lt_of_succ_lt_succ enough) later
    simp [readMembers, read, ahead]

/-! ### Records -/

/-- A written record is read from the front of a text, after any blanks. -/
theorem readRecord_writeRecord {before : List Char} (blank : ∀ c ∈ before, isBlank c) (r : Record)
    (rest : List Char) : readRecord (before ++ (writeRecord r ++ rest)) = .ok (r, rest) := by
  obtain ⟨t, members⟩ := exists_members_eq_cons r .radius Field.all.tail ('}' :: rest)
  have text : writeRecord r ++ rest = '{' :: '"' :: t := by
    rw [← members]
    simp [writeRecord, memberOf, Field.all]
  have read : readObject ('"' :: t) = .ok (Field.all.foldl (Draft.put r) Draft.empty, rest) := by
    rw [readObject, skipBlank_cons rfl]
    exact readMembers_memberOf (by decide) (fun f _ => by cases f <;> rfl) (by decide) members
  rw [readRecord, skipBlank_append blank, text]
  simp [read]

theorem readAll_eq_ok {α : Type} {reader : Reader α} {a : α}
    (read : reader s = .ok (a, rest)) (blank : ∀ c ∈ rest, isBlank c) : readAll reader s = .ok a := by
  simp [readAll, read, skipBlank_eq_nil blank]

variable {before after : String}

theorem toList_json_between (r : Record) :
    (before ++ r.json ++ after).toList = before.toList ++ (writeRecord r ++ after.toList) := by
  rw [String.toList_append, String.toList_append, Record.json, String.toList_ofList,
    List.append_assoc]

theorem record_ofJson_json (before_blank : ∀ c ∈ before.toList, isBlank c)
    (after_blank : ∀ c ∈ after.toList, isBlank c) (r : Record) :
    Record.ofJson (before ++ r.json ++ after) = .ok r := by
  rw [Record.ofJson, toList_json_between]
  exact readAll_eq_ok (readRecord_writeRecord before_blank r _) after_blank

theorem configuration_ofJson_json (before_blank : ∀ c ∈ before.toList, isBlank c)
    (after_blank : ∀ c ∈ after.toList, isBlank c) (c : Configuration) :
    Configuration.ofJson (before ++ c.json ++ after) = .ok c := by
  have read : readConfiguration (before ++ c.json ++ after).toList = .ok (c, after.toList) := by
    rw [Configuration.json, toList_json_between, readConfiguration,
      readRecord_writeRecord before_blank, ok_bind]
    simp [judged]
  exact readAll_eq_ok read after_blank

/-- A ruleset is read back from its text, and so is every record, valid or not, whatever integers and
characters it holds; and both are from the text with blanks around it. -/
theorem ofJson_json_eq_ok :
    (∀ c : Configuration, Configuration.ofJson c.json = .ok c) ∧
      (∀ r : Record, Record.ofJson r.json = .ok r) ∧
      ∀ before after : String, (∀ c ∈ before.toList, isBlank c) → (∀ c ∈ after.toList, isBlank c) →
        (∀ r : Record, Record.ofJson (before ++ r.json ++ after) = .ok r) ∧
          ∀ c : Configuration, Configuration.ofJson (before ++ c.json ++ after) = .ok c := by
  have bare (s : String) : "" ++ s ++ "" = s := by simp
  refine ⟨fun c => ?_, fun r => ?_, fun before after hb ha =>
    ⟨record_ofJson_json hb ha, configuration_ofJson_json hb ha⟩⟩
  · rw [← bare c.json]
    exact configuration_ofJson_json (by simp) (by simp) c
  · rw [← bare r.json]
    exact record_ofJson_json (by simp) (by simp) r

/-- A record with the least integer there is, and with a quote, a backslash, a control character and a
character beyond sixteen bits in its code. -/
def awkward : Record := ⟨-9223372036854775808, 26, 2, (3, -1), (0, 65536), "\"\\\x01😀"⟩

theorem ofJson_json_eq_ok_awkward :
    (∀ c ∈ "\n\t ".toList, isBlank c) ∧ (∀ c ∈ " \r".toList, isBlank c) ∧
      Record.ofJson ("\n\t " ++ awkward.json ++ " \r") = .ok awkward := by
  have before_blank : ∀ c ∈ "\n\t ".toList, isBlank c := by simp [isBlank]
  have after_blank : ∀ c ∈ " \r".toList, isBlank c := by simp [isBlank]
  exact ⟨before_blank, after_blank,
    (ofJson_json_eq_ok.2.2 "\n\t " " \r" before_blank after_blank).1 awkward⟩

end LargerThanLife.Json
