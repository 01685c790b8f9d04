import LargerThanLife.Proofs.Record.Validity
import LargerThanLife.Proofs.Validation

/-! The written form of a ruleset as a normal form of rulestrings. It is the rulestring of the record
that the ruleset is stored as, so it is judged as that record is, and reading it gives the ruleset
back. Whatever else spells the same ruleset has this one text as its normal form. -/

namespace LargerThanLife.Rulestring

open Text

/-- The written form of the ruleset that a text stands for. -/
def normalForm (s : String) : Except Fault String :=
  Configuration.rulestring <$> Configuration.ofRulestring s

variable {c : Configuration}

theorem writeInt_toInt_ofNat {n : Nat} (small : n ≤ 65535) :
    Numeral.writeInt (Int64.ofNat n).toInt = Numeral.write n := by
  rw [Record.toInt_ofNat_of_le small, Numeral.writeInt, if_neg (by omega), Int.natAbs_natCast]

theorem parts_ofConfiguration (c : Configuration) :
    (Record.ofConfiguration c).parts = parts c := by
  have ends (i : Interval) : Numeral.writeInt (Record.ofEnds i).1.toInt ++ '.' :: '.' ::
      Numeral.writeInt (Record.ofEnds i).2.toInt = i.write := by
    have min_lt := i.min.toNat_lt
    have max_lt := i.max.toNat_lt
    rw [Record.ofEnds, writeInt_toInt_ofNat (by omega), writeInt_toInt_ofNat (by omega),
      Interval.write]
  have radius_le := c.radius_le
  have depth_le := c.depth_le
  have aging_le := c.aging.toNat_le
  simp only [Record.parts, Record.ofConfiguration, parts, ends]
  rw [writeInt_toInt_ofNat (by omega), writeInt_toInt_ofNat (by omega),
    writeInt_toInt_ofNat (by omega)]

theorem rulestring_ofConfiguration (c : Configuration) :
    (Record.ofConfiguration c).rulestring = c.rulestring := by
  rw [Record.rulestring, parts_ofConfiguration, Configuration.rulestring, write]

theorem not_comma_of_mem_code {shape : Shape} :
    ∀ d ∈ shape.code.toList, d ≠ ',' ∧ isBlank d = false := by
  cases shape <;> simp [Shape.code, isBlank]

theorem ofRulestring_rulestring (c : Configuration) :
    Configuration.ofRulestring c.rulestring = .ok c := by
  have judged := Record.parse_rulestring (r := Record.ofConfiguration c)
    (fun comma => (not_comma_of_mem_code ',' comma).1 rfl)
    (fun d first => (not_comma_of_mem_code d (List.mem_of_mem_head? first)).2)
    (fun d last => (not_comma_of_mem_code d (List.mem_of_getLast? last)).2)
  rw [rulestring_ofConfiguration] at judged
  exact (judged.ok_iff c).mpr (Record.validate_ofConfiguration c)

theorem normalForm_eq_ok {s : String} (accepted : Configuration.ofRulestring s = .ok c) :
    normalForm s = .ok c.rulestring := by
  rw [normalForm, accepted]
  rfl

/-- The written form of a ruleset is read as the ruleset. A text that is accepted has the written form of
its ruleset as its normal form, which is read as the same ruleset and is its own normal form. Two
rulesets are the same when their written forms are. -/
theorem normalForm_stable :
    (∀ c : Configuration, Configuration.ofRulestring c.rulestring = .ok c) ∧
      (∀ (s : String) (c : Configuration), Configuration.ofRulestring s = .ok c →
        normalForm s = .ok c.rulestring ∧ Configuration.ofRulestring c.rulestring = .ok c ∧
          normalForm c.rulestring = .ok c.rulestring) ∧
      ∀ c c' : Configuration, c = c' ↔ c.rulestring = c'.rulestring := by
  refine ⟨ofRulestring_rulestring, ?_, ?_⟩
  · intro s c accepted
    have again := ofRulestring_rulestring c
    exact ⟨normalForm_eq_ok accepted, again, normalForm_eq_ok again⟩
  · intro c c'
    refine ⟨congrArg _, fun same => ?_⟩
    have read := ofRulestring_rulestring c
    rw [same, ofRulestring_rulestring] at read
    exact (Except.ok.inj read).symm

/-- Blanks, plus signs and leading zeros are gone from the normal form. -/
theorem normalForm_stable_life :
    ∃ c, Configuration.ofRulestring " R+1,C00 ,M0,S2..3,B003..+3,\tNM" = .ok c ∧
      normalForm " R+1,C00 ,M0,S2..3,B003..+3,\tNM" = .ok "R1,C0,M0,S2..3,B3..3,NM" ∧
      normalForm "R1,C0,M0,S2..3,B3..3,NM" = .ok "R1,C0,M0,S2..3,B3..3,NM" := by
  obtain ⟨c, accepted, written⟩ : ∃ c : Configuration,
      Configuration.ofRulestring " R+1,C00 ,M0,S2..3,B003..+3,\tNM" = .ok c ∧
        c.rulestring = "R1,C0,M0,S2..3,B3..3,NM" := ⟨_, rfl, by decide⟩
  obtain ⟨form, -, stable⟩ := normalForm_stable.2.1 _ c accepted
  rw [written] at form stable
  exact ⟨c, accepted, form, stable⟩

end LargerThanLife.Rulestring
