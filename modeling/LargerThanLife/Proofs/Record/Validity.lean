import LargerThanLife.Proofs.Values

/-! Which records are valid, and for which rulesets. Judging a record compares its values with those of
a ruleset: each stage lets the values through that the field of some ruleset can have, and loses none of
them. So the valid records are those that rulesets are stored as, each for one ruleset. -/

namespace LargerThanLife.Record

variable {r : Record} {c : Configuration}

/-! ### Stage by stage -/

theorem narrow_eq_ok_iff {field : Field} {limit : Nat} {n : Int64} {k : Nat} :
    narrow field limit n = .ok k ↔ n.toInt = k ∧ k ≤ limit := by
  unfold narrow
  constructor
  · intro h
    split at h
    · next fits =>
      cases h
      omega
    · cases h
  · rintro ⟨same, fits⟩
    rw [same, if_pos (by omega), Int.toNat_natCast]

theorem flag_eq_ok_iff {n : Int64} {b : Bool} : flag n = .ok b ↔ n.toInt = b.toNat := by
  unfold flag
  constructor
  · intro h
    split at h
    · next off => cases h; exact off
    · split at h
      · next on => cases h; exact on
      · cases h
  · intro same
    rw [same]
    cases b <;> rfl

theorem narrowEnds_eq_ok_iff {field : Field} {ends : Int64 × Int64} {counts : UInt16 × UInt16} :
    narrowEnds field ends = .ok counts ↔
      (ends.1.toInt, ends.2.toInt) = ((counts.1.toNat : Int), (counts.2.toNat : Int)) := by
  simp only [narrowEnds, bind_eq_ok_iff, pure_eq_ok_iff, narrow_eq_ok_iff, Prod.mk.injEq]
  constructor
  · rintro ⟨min, ⟨low, min_le⟩, max, ⟨high, max_le⟩, rfl⟩
    rw [UInt16.toNat_ofNat_of_lt' (Nat.lt_succ_of_le min_le),
      UInt16.toNat_ofNat_of_lt' (Nat.lt_succ_of_le max_le)]
    exact ⟨low, high⟩
  · rintro ⟨low, high⟩
    have min_lt := counts.1.toNat_lt
    have max_lt := counts.2.toNat_lt
    exact ⟨_, ⟨low, by omega⟩, _, ⟨high, by omega⟩, by rw [UInt16.ofNat_toNat, UInt16.ofNat_toNat]⟩

/-- A record is judged to be a ruleset when both have the same values. -/
theorem validate_eq_ok_iff : r.validate = .ok c ↔ r.values = c.values := by
  simp only [validate, bind_eq_ok_iff, narrow_eq_ok_iff, flag_eq_ok_iff, narrowEnds_eq_ok_iff,
    Shape.ofCode_eq_ok_iff, Configuration.create_eq_ok_iff, values, Configuration.values,
    Interval.bounds, Values.mk.injEq]
  constructor
  · rintro ⟨_, ⟨radius, -⟩, _, ⟨depth, -⟩, _, aging, _, survival, _, birth, _, code, rfl, rfl, rfl,
      rfl, rfl, rfl⟩
    exact ⟨radius, depth, aging, survival, birth, code⟩
  · rintro ⟨radius, depth, aging, survival, birth, code⟩
    have radius_le := c.radius_le
    have depth_le := c.depth_le
    exact ⟨_, ⟨radius, by omega⟩, _, ⟨depth, by omega⟩, _, aging, c.survival.ends, survival,
      c.birth.ends, birth, _, code, rfl, rfl, rfl, rfl, rfl, rfl⟩

/-! ### The stored form of a ruleset -/

theorem values_injective {r r' : Record} (same : r.values = r'.values) : r = r' := by
  simp only [values, Values.mk.injEq, Prod.mk.injEq, Int64.toInt_inj] at same
  obtain ⟨radius, depth, aging, survival, birth, code⟩ := same
  cases r
  cases r'
  simp only [mk.injEq]
  exact ⟨radius, depth, aging, Prod.ext survival.1 survival.2, Prod.ext birth.1 birth.2, code⟩

theorem toInt_ofNat_of_le {n : Nat} (small : n ≤ 65535) : (Int64.ofNat n).toInt = n :=
  Int64.toInt_ofNat_of_lt (by omega)

theorem values_ofConfiguration (c : Configuration) : (ofConfiguration c).values = c.values := by
  have bounds (i : Interval) : ((ofEnds i).1.toInt, (ofEnds i).2.toInt) = i.bounds := by
    have min_lt := i.min.toNat_lt
    have max_lt := i.max.toNat_lt
    rw [ofEnds, toInt_ofNat_of_le (by omega), toInt_ofNat_of_le (by omega), Interval.bounds]
  have radius_le := c.radius_le
  have depth_le := c.depth_le
  have aging_le := c.aging.toNat_le
  simp only [values, ofConfiguration, Configuration.values, bounds]
  rw [toInt_ofNat_of_le (by omega), toInt_ofNat_of_le (by omega), toInt_ofNat_of_le (by omega)]

theorem validate_eq_ok_iff_eq : r.validate = .ok c ↔ r = ofConfiguration c := by
  rw [validate_eq_ok_iff, ← values_ofConfiguration]
  exact ⟨values_injective, congrArg values⟩

@[simp] theorem validate_ofConfiguration (c : Configuration) : (ofConfiguration c).validate = .ok c :=
  validate_eq_ok_iff_eq.mpr rfl

/-- A record is valid when all its values lie in their domains. -/
theorem exists_validate_eq_ok_iff : (∃ c, r.validate = .ok c) ↔ r.values.Admitted := by
  simp only [validate_eq_ok_iff]
  constructor
  · rintro ⟨c, same⟩
    rw [same]
    exact c.admitted_values
  · intro admitted
    obtain ⟨c, same⟩ := Configuration.exists_values_eq admitted
    exact ⟨c, same.symm⟩

/-- Valid records and rulesets correspond one to one. A record is valid for a ruleset exactly when it
is the stored form of the ruleset, so every ruleset comes back from its stored form, two valid records
of one ruleset are the same, and storing the ruleset of a valid record gives the record again. The
valid records are those with all values in their domains. -/
theorem validate_bijective (r : Record) (c : Configuration) :
    (r.validate = .ok c ↔ r = ofConfiguration c) ∧
      (ofConfiguration c).validate = .ok c ∧
      (∀ r' : Record, r.validate = .ok c → r'.validate = .ok c → r = r') ∧
      (r.validate = .ok c → ofConfiguration c = r) ∧
      ((∃ c', r.validate = .ok c') ↔ r.values.Admitted) := by
  refine ⟨validate_eq_ok_iff_eq, validate_ofConfiguration c, ?_, ?_, exists_validate_eq_ok_iff⟩
  · intro r' valid valid'
    rw [validate_eq_ok_iff_eq.mp valid, validate_eq_ok_iff_eq.mp valid']
  · exact fun valid => (validate_eq_ok_iff_eq.mp valid).symm

/-- A record with the greatest value in every field that has one. -/
def greatest : Record := ⟨10, 25, 1, (0, 65535), (65535, 65535), "NN"⟩

theorem validate_bijective_greatest :
    ∃ c, greatest.validate = .ok c ∧ ofConfiguration c = greatest ∧
      ∀ r, r.validate = .ok c → r = greatest := by
  obtain ⟨c, valid⟩ : ∃ c, greatest.validate = .ok c := ⟨_, rfl⟩
  obtain ⟨-, -, same, stored, -⟩ := validate_bijective greatest c
  exact ⟨c, valid, stored valid, fun r valid' => (same r valid valid').symm⟩

end LargerThanLife.Record
