import LargerThanLife.Proofs.Outcome
import LargerThanLife.Record
import LargerThanLife.Rulestring

/-! Two ways to judge the same values: as the stored integers of a record, and as a rulestring in which
these integers are written out. The stages of the two go side by side: a number that does not fit its
field is no numeral for that field, and a faulty flag, interval or code is found at the same place in
the order. So both accept the same values, as the same ruleset, and report the same thing first. -/

namespace LargerThanLife

open Text

/-- The two faults say the same: a value of one subject is refused, or one code is unknown. -/
inductive Fault.SameReport : Fault → Fault → Prop
  | invalid (subject : Subject) (reason reason' : Reason) :
    SameReport (.invalid subject reason) (.invalid subject reason')
  | unknownCode (code : String) : SameReport (.unknownCode code) (.unknownCode code)

/-- The two outcomes are the same ruleset, or faults that say the same. -/
abbrev Alike {α : Type} : Except Fault α → Except Fault α → Prop := Matches Fault.SameReport Eq

namespace Record

/-- The values of a record in the order of a rulestring, each after its letter. -/
def parts (r : Record) : List (List Char) :=
  ['R' :: Numeral.writeInt r.radius.toInt,
    'C' :: Numeral.writeInt r.decayStates.toInt,
    'M' :: Numeral.writeInt r.agingEnabled.toInt,
    'S' :: (Numeral.writeInt r.survivalInterval.1.toInt ++
      '.' :: '.' :: Numeral.writeInt r.survivalInterval.2.toInt),
    'B' :: (Numeral.writeInt r.birthInterval.1.toInt ++
      '.' :: '.' :: Numeral.writeInt r.birthInterval.2.toInt),
    r.neighbourhoodCode.toList]

/-- The values of a record written out as a rulestring, whether they are valid or not. -/
def rulestring (r : Record) : String := String.ofList (join ',' r.parts)

end Record

/-! ### The text -/

namespace Record

/-- Only the code can hold anything but digits, dots, minus signs and the letters of the parts. -/
theorem plain_of_mem_parts {r : Record} {p : List Char} (hp : p ∈ r.parts) :
    p = r.neighbourhoodCode.toList ∨
      ∀ c ∈ p, c.isDigit ∨ c ∈ ['R', 'C', 'M', 'S', 'B', '-', '.'] := by
  have number (n : Int) : ∀ c ∈ Numeral.writeInt n,
      c.isDigit ∨ c ∈ ['R', 'C', 'M', 'S', 'B', '-', '.'] := by
    intro c h
    rcases Numeral.isDigit_or_minus_of_mem_writeInt h with digit | rfl
    · exact .inl digit
    · exact .inr (by decide)
  have range (m n : Int) : ∀ c ∈ Numeral.writeInt m ++ '.' :: '.' :: Numeral.writeInt n,
      c.isDigit ∨ c ∈ ['R', 'C', 'M', 'S', 'B', '-', '.'] := by
    intro c h
    simp only [List.mem_append, List.mem_cons] at h
    rcases h with low | rfl | rfl | high
    · exact number m c low
    · exact .inr (by decide)
    · exact .inr (by decide)
    · exact number n c high
  simp only [parts, List.mem_cons, List.not_mem_nil, or_false] at hp
  rcases hp with rfl | rfl | rfl | rfl | rfl | rfl
  · exact .inr (List.forall_mem_cons.mpr ⟨.inr (by decide), number _⟩)
  · exact .inr (List.forall_mem_cons.mpr ⟨.inr (by decide), number _⟩)
  · exact .inr (List.forall_mem_cons.mpr ⟨.inr (by decide), number _⟩)
  · exact .inr (List.forall_mem_cons.mpr ⟨.inr (by decide), range _ _⟩)
  · exact .inr (List.forall_mem_cons.mpr ⟨.inr (by decide), range _ _⟩)
  · exact .inl rfl

theorem map_trim_pieces_rulestring {r : Record} (whole : ',' ∉ r.neighbourhoodCode.toList)
    (first : ∀ c ∈ r.neighbourhoodCode.toList.head?, isBlank c = false)
    (last : ∀ c ∈ r.neighbourhoodCode.toList.getLast?, isBlank c = false) :
    (pieces ',' r.rulestring.toList).map trim = r.parts := by
  have no_comma : ∀ p ∈ r.parts, ',' ∉ p := by
    intro p hp comma
    rcases plain_of_mem_parts hp with rfl | plain
    · exact whole comma
    · exact absurd (plain _ comma) (by decide)
  rw [rulestring, String.toList_ofList, pieces_join (by simp [parts]) no_comma]
  refine (List.map_congr_left fun p hp => ?_).trans r.parts.map_id
  rcases plain_of_mem_parts hp with rfl | plain
  · exact trim_eq_self first last
  · refine trim_eq_self_of_forall fun c hc => ?_
    rcases plain c hc with digit | mark
    · exact isBlank_eq_false_of_isDigit digit
    · simp only [List.mem_cons, List.not_mem_nil, or_false] at mark
      rcases mark with rfl | rfl | rfl | rfl | rfl | rfl | rfl <;> rfl

end Record

/-! ### Stage by stage -/

theorem number_written (tag : Char) (field : Field) (limit : Nat) (n : Int) :
    Rulestring.number tag field limit (tag :: Numeral.writeInt n) =
      if 0 ≤ n ∧ n ≤ limit then .ok n.toNat
      else .error (.invalid (.field field) (.notNumber (String.ofList (Numeral.writeInt n)))) := by
  simp only [Rulestring.number, Rulestring.untag, if_true, bind, Except.bind,
    Numeral.readUpTo_writeInt]
  split
  · next h =>
    split at h
    · next fits => rw [if_pos fits, ← Option.some.inj h]; rfl
    · cases h
  · next h =>
    split at h
    · cases h
    · next misfit => rw [if_neg misfit]; rfl

theorem number_alike (tag : Char) (field : Field) (limit : Nat) (n : Int64) :
    Alike (Rulestring.number tag field limit (tag :: Numeral.writeInt n.toInt))
      (Record.narrow field limit n) := by
  rw [number_written, Record.narrow]
  exact .ite (fun _ => .ok rfl) fun _ => .error (.invalid _ _ _)

theorem flag_alike (n : Int64) :
    Alike (Rulestring.number 'M' .agingEnabled 255 ('M' :: Numeral.writeInt n.toInt) >>=
      Rulestring.flag) (Record.flag n) := by
  rw [number_written, Record.flag]
  by_cases fits : 0 ≤ n.toInt ∧ n.toInt ≤ (255 : Nat)
  · rw [if_pos fits]
    obtain ⟨k, hk⟩ := Int.eq_ofNat_of_zero_le fits.1
    rw [hk]
    match k with
    | 0 => exact .ok rfl
    | 1 => exact .ok rfl
    | k + 2 =>
      rw [if_neg (by omega), if_neg (by omega)]
      exact .error (.invalid _ _ _)
  · -- too wide to be read is also neither 0 nor 1
    rw [if_neg fits, if_neg (by omega), if_neg (by omega)]
    exact .error (.invalid _ _ _)

theorem count_matches (field : Field) (n : Int64) :
    Matches Fault.SameReport (fun end_ k => end_ = UInt16.ofNat k)
      (Rulestring.count field (Numeral.writeInt n.toInt)) (Record.narrow field 65535 n) := by
  rw [Rulestring.count, Numeral.readUpTo_writeInt, Record.narrow]
  by_cases fits : 0 ≤ n.toInt ∧ n.toInt ≤ (65535 : Nat)
  · rw [if_pos fits, if_pos fits]
    exact .ok rfl
  · rw [if_neg fits, if_neg fits]
    exact .error (.invalid _ _ _)

theorem range_alike (tag : Char) (field : Field) (ends : Int64 × Int64) :
    Alike (Rulestring.range tag field (tag :: (Numeral.writeInt ends.1.toInt ++
        '.' :: '.' :: Numeral.writeInt ends.2.toInt)))
      (Record.narrowEnds field ends) := by
  have no_dot : '.' ∉ Numeral.writeInt ends.1.toInt := by
    intro h
    rcases Numeral.isDigit_or_minus_of_mem_writeInt h with digit | minus
    · exact absurd digit (by decide)
    · exact absurd minus (by decide)
  simp only [Rulestring.range, Rulestring.untag, if_true, bind, Except.bind,
    cutAtDots_append no_dot]
  refine (count_matches field ends.1).bind ?_
  rintro _ low rfl
  refine (count_matches field ends.2).bind ?_
  rintro _ high rfl
  exact .ok rfl

theorem ofCode_alike (code : String) : Alike (Shape.ofCode code) (Shape.ofCode code) := by
  unfold Shape.ofCode
  exact .ite (fun _ => .ok rfl) fun _ => .ite (fun _ => .ok rfl) fun _ => .error (.unknownCode _)

theorem interval_alike (subject : Subject) (min max : UInt16) :
    Alike (Interval.create subject min max) (Interval.create subject min max) := by
  unfold Interval.create
  split
  · exact .ok rfl
  · exact .error (.invalid _ _ _)

theorem create_alike (radius depth : Nat) (aging : Bool) (survival birth : UInt16 × UInt16)
    (shape : Shape) :
    Alike (Configuration.create radius depth aging survival birth shape)
      (Configuration.create radius depth aging survival birth shape) := by
  unfold Configuration.create
  split
  · split
    · refine (interval_alike _ _ _).bind ?_
      rintro survival _ rfl
      refine (interval_alike _ _ _).bind ?_
      rintro birth _ rfl
      exact .ok rfl
    · exact .error (.invalid _ _ _)
  · exact .error (.invalid _ _ _)

namespace Record

variable {r : Record}

theorem parse_rulestring (whole : ',' ∉ r.neighbourhoodCode.toList)
    (first : ∀ c ∈ r.neighbourhoodCode.toList.head?, isBlank c = false)
    (last : ∀ c ∈ r.neighbourhoodCode.toList.getLast?, isBlank c = false) :
    Alike (Configuration.ofRulestring r.rulestring) r.validate := by
  rw [Configuration.ofRulestring, Rulestring.parse, map_trim_pieces_rulestring whole first last]
  simp only [parts, Rulestring.ofParts, validate, String.ofList_toList]
  refine (number_alike _ _ _ _).bind ?_
  rintro radius _ rfl
  refine (number_alike _ _ _ _).bind ?_
  rintro depth _ rfl
  -- the number of the flag and its meaning are one stage of the record
  rw [← bind_assoc]
  refine (flag_alike _).bind ?_
  rintro aging _ rfl
  refine (range_alike _ _ _).bind ?_
  rintro survival _ rfl
  refine (range_alike _ _ _).bind ?_
  rintro birth _ rfl
  refine (ofCode_alike _).bind ?_
  rintro shape _ rfl
  exact create_alike _ _ _ _ _ _

/-- The rulestring of any values is accepted exactly when the record of these values is, as the same
ruleset; and when they are refused, the first fault found is about the same field or the same code.
The code is one that a rulestring can hold: it has no comma, and no blank at either end. -/
theorem rulestring_judged_as_record (whole : ',' ∉ r.neighbourhoodCode.toList)
    (first : ∀ c ∈ r.neighbourhoodCode.toList.head?, isBlank c = false)
    (last : ∀ c ∈ r.neighbourhoodCode.toList.getLast?, isBlank c = false) :
    (∀ c, Configuration.ofRulestring r.rulestring = .ok c ↔ r.validate = .ok c) ∧
      ∀ f, Configuration.ofRulestring r.rulestring = .error f →
        ∃ g, r.validate = .error g ∧ f.SameReport g := by
  have alike := parse_rulestring whole first last
  exact ⟨alike.ok_iff, fun f refused => alike.exists_error refused⟩

/-- A record with a radius, both intervals and a code at fault. -/
def faulty : Record := ⟨0, 25, 1, (5, 65536), (9, -3), "N M"⟩

theorem rulestring_judged_as_record_faulty :
    faulty.rulestring = "R0,C25,M1,S5..65536,B9..-3,N M" ∧
      ∃ g, faulty.validate = .error g ∧
        (Fault.invalid (.field .survivalInterval) (.notCount "65536")).SameReport g := by
  have refused : Configuration.ofRulestring faulty.rulestring =
      .error (.invalid (.field .survivalInterval) (.notCount "65536")) := rfl
  obtain ⟨-, same⟩ :=
    rulestring_judged_as_record (r := faulty) (by decide) (by simp [faulty, isBlank])
      (by simp [faulty, isBlank])
  exact ⟨by decide, same _ refused⟩

end Record

end LargerThanLife
