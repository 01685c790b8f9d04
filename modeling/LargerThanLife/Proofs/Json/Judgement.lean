import LargerThanLife.Proofs.Json.RoundTrip

/-! Rulesets read from JSON text. A ruleset is read as a record that is then judged, and there is no
other way to one. The record is judged as soon as its last bracket is read, so a fault of the text up to
that bracket comes before any fault of the record, and a fault of the record before a fault of the text
that follows. -/

namespace LargerThanLife.Json

variable {text : String} {c : Configuration} {r : Record} {rest : List Char} {fault : Fault}

theorem judged_eq_ok_iff {α : Type} {outcome : Except LargerThanLife.Fault α} {a : α} :
    judged outcome = .ok a ↔ outcome = .ok a := by
  cases outcome <;> simp [judged]

theorem readAll_eq_ok_iff {α : Type} {reader : Reader α} {s : List Char} {a : α} :
    readAll reader s = .ok a ↔ ∃ rest, reader s = .ok (a, rest) ∧ skipBlank rest = [] := by
  simp only [readAll, bind_eq_ok_iff]
  constructor
  · rintro ⟨⟨b, rest⟩, read, closed⟩
    split at closed
    · next blank =>
      obtain rfl := pure_eq_ok_iff.mp closed
      exact ⟨rest, read, blank⟩
    · cases closed
  · rintro ⟨rest, read, blank⟩
    exact ⟨(a, rest), read, by rw [if_pos blank]; rfl⟩

/-- A ruleset is read from a text when a record is, and the record is judged to be the ruleset. -/
theorem ofJson_eq_ok_iff :
    Configuration.ofJson text = .ok c ↔ ∃ r, Record.ofJson text = .ok r ∧ r.validate = .ok c := by
  simp only [Configuration.ofJson, Record.ofJson, readAll_eq_ok_iff, readConfiguration,
    bind_eq_ok_iff, judged_eq_ok_iff, pure_eq_ok_iff]
  constructor
  · rintro ⟨rest, ⟨⟨r, _⟩, read, _, valid, same⟩, blank⟩
    obtain ⟨rfl, rfl⟩ := Prod.mk.inj same
    exact ⟨r, ⟨_, read, blank⟩, valid⟩
  · rintro ⟨r, ⟨rest, read, blank⟩, valid⟩
    exact ⟨rest, ⟨(r, rest), read, c, valid, rfl⟩, blank⟩

/-! ### Faults -/

/-- The text has a record at its front and then goes on, with more than blanks. -/
def GoesOn (text : String) (r : Record) : Prop :=
  ∃ rest, readRecord text.toList = .ok (r, rest) ∧ skipBlank rest ≠ []

theorem readAll_of_error {α : Type} {reader : Reader α} {s : List Char}
    (failed : reader s = .error fault) : readAll reader s = .error fault := by
  simp [readAll, failed]

theorem readAll_of_goes_on {α : Type} {reader : Reader α} {s : List Char} {a : α}
    (read : reader s = .ok (a, rest)) (more : skipBlank rest ≠ []) :
    readAll reader s = .error (.malformed .trailingCharacters) := by
  simp [readAll, read, more]

/-- Where a record is refused as a text, either no record stands at its front or the text goes on. -/
theorem readRecord_of_ofJson_eq_error (refused : Record.ofJson text = .error fault) :
    readRecord text.toList = .error fault ∨ ∃ r, GoesOn text r := by
  cases read : readRecord text.toList with
  | error found =>
    rw [Record.ofJson, readAll_of_error read] at refused
    exact .inl (congrArg _ (Except.error.inj refused))
  | ok front =>
    obtain ⟨r, rest⟩ := front
    refine .inr ⟨r, rest, read, fun blank => ?_⟩
    rw [Record.ofJson, readAll_eq_ok_iff.mpr ⟨rest, read, blank⟩] at refused
    cases refused

theorem readConfiguration_of_error {s : List Char} (failed : readRecord s = .error fault) :
    readConfiguration s = .error fault := by
  simp [readConfiguration, failed]

theorem readConfiguration_of_refused {s : List Char} {why : LargerThanLife.Fault}
    (read : readRecord s = .ok (r, rest)) (invalid : r.validate = .error why) :
    readConfiguration s = .error (.mismatch (.refused why)) := by
  simp [readConfiguration, read, invalid, judged]

theorem readConfiguration_of_valid {s : List Char} (read : readRecord s = .ok (r, rest))
    (valid : r.validate = .ok c) : readConfiguration s = .ok (c, rest) := by
  simp [readConfiguration, read, valid, judged]

/-- A ruleset is read from a text exactly if a valid record is, and is the one it is judged to be. The
faults are those of reading a record, as long as no record is complete; then that of judging it; and
only then that of a text that goes on. -/
theorem configuration_ofJson_judged (text : String) :
    (∀ c, Configuration.ofJson text = .ok c ↔ ∃ r, Record.ofJson text = .ok r ∧ r.validate = .ok c) ∧
      (∀ fault, Record.ofJson text = .error fault → (¬∃ r, GoesOn text r) →
        Configuration.ofJson text = .error fault) ∧
      (∀ r why, Record.ofJson text = .ok r → r.validate = .error why →
        ∃ m, Configuration.ofJson text = .error (.mismatch m) ∧ m.message = why.message) ∧
      ∀ r, GoesOn text r → Record.ofJson text = .error (.malformed .trailingCharacters) ∧
        Configuration.ofJson text =
          match r.validate with
          | .ok _ => .error (.malformed .trailingCharacters)
          | .error why => .error (.mismatch (.refused why)) := by
  refine ⟨fun c => ofJson_eq_ok_iff, fun fault refused complete => ?_, fun r why read invalid => ?_,
    fun r goes_on => ?_⟩
  · have failed := (readRecord_of_ofJson_eq_error refused).resolve_right complete
    exact readAll_of_error (readConfiguration_of_error failed)
  · obtain ⟨rest, front, -⟩ := readAll_eq_ok_iff.mp read
    exact ⟨.refused why, readAll_of_error (readConfiguration_of_refused front invalid), rfl⟩
  · obtain ⟨rest, front, more⟩ := goes_on
    refine ⟨readAll_of_goes_on front more, ?_⟩
    cases judgement : r.validate with
    | ok c => exact readAll_of_goes_on (readConfiguration_of_valid front judgement) more
    | error why => exact readAll_of_error (readConfiguration_of_refused front judgement)

/-- A flag in the place of the radius is found before the array turns out to be too short. The code of
the record `awkward`, which is invalid in several fields, is read before any of them is judged, and
what follows the record is not looked at. -/
theorem configuration_ofJson_judged_awkward :
    (∃ m, Record.ofJson "[true" = .error m ∧ (¬∃ r, GoesOn "[true" r) ∧
        Configuration.ofJson "[true" = .error m) ∧
      (∃ m why, awkward.validate = .error why ∧
        Configuration.ofJson awkward.json = .error (.mismatch m) ∧ m.message = why.message) ∧
      GoesOn (awkward.json ++ "]") awkward ∧
      Record.ofJson (awkward.json ++ "]") = .error (.malformed .trailingCharacters) ∧
      ∃ why, Configuration.ofJson (awkward.json ++ "]") = .error (.mismatch (.refused why)) := by
  have invalid : awkward.validate = .error (.invalid (.field .radius) (.tooWide (-9223372036854775808))) := by
    decide
  have front (rest : List Char) : readRecord (writeRecord awkward ++ rest) = .ok (awkward, rest) :=
    readRecord_writeRecord (fun _ none => absurd none List.not_mem_nil) awkward rest
  have text : (awkward.json ++ "]").toList = writeRecord awkward ++ [']'] := by
    rw [String.toList_append, Record.json, String.toList_ofList]
    rfl
  have goes_on : GoesOn (awkward.json ++ "]") awkward := by
    refine ⟨[']'], ?_, by decide⟩
    rw [text]
    exact front _
  have whole : Record.ofJson awkward.json = .ok awkward := by
    rw [Record.ofJson, Record.json, String.toList_ofList, ← List.append_nil (writeRecord awkward)]
    exact readAll_eq_ok (front []) (by simp)
  have failed : readRecord "[true".toList =
      .error (.mismatch (.wrongType (.boolean true) .integer)) := by
    decide +kernel
  have incomplete : ¬∃ r, GoesOn "[true" r := by
    rintro ⟨r, rest, read, -⟩
    rw [failed] at read
    cases read
  have refused := readAll_of_error failed
  obtain ⟨-, same, -, -⟩ := configuration_ofJson_judged "[true"
  obtain ⟨-, -, judged, -⟩ := configuration_ofJson_judged awkward.json
  obtain ⟨-, -, -, before⟩ := configuration_ofJson_judged (awkward.json ++ "]")
  obtain ⟨m, found, message⟩ := judged awkward _ whole invalid
  obtain ⟨unread, found'⟩ := before awkward goes_on
  rw [invalid] at found'
  exact ⟨⟨_, refused, incomplete, same _ refused incomplete⟩, ⟨m, _, invalid, found, message⟩, goes_on,
    unread, _, found'⟩

end LargerThanLife.Json
