import LargerThanLife.Proofs.Outcome
import LargerThanLife.Record

/-! The values that a ruleset is written with: seven integers and a code. Rulestrings and records give
such values, and not all of them are values of a ruleset. The main statement is that those are which
lie in their domains, and that no two rulesets have the same. -/

namespace LargerThanLife

/-- Seven integers and a code, in the order in which they are written. -/
structure Values where
  radius : Int
  depth : Int
  aging : Int
  survival : Int × Int
  birth : Int × Int
  code : String
  deriving DecidableEq, Repr

/-- Every value lies in its domain. -/
structure Values.Admitted (v : Values) : Prop where
  radius : 1 ≤ v.radius ∧ v.radius ≤ 10
  depth : 0 ≤ v.depth ∧ v.depth ≤ 25
  aging : v.aging = 0 ∨ v.aging = 1
  survival : 0 ≤ v.survival.1 ∧ v.survival.1 ≤ v.survival.2 ∧ v.survival.2 ≤ 65535
  birth : 0 ≤ v.birth.1 ∧ v.birth.1 ≤ v.birth.2 ∧ v.birth.2 ≤ 65535
  code : v.code = "NM" ∨ v.code = "NN"

def Interval.bounds (i : Interval) : Int × Int := (i.min.toNat, i.max.toNat)

def Configuration.values (c : Configuration) : Values where
  radius := c.radius
  depth := c.depth
  aging := c.aging.toNat
  survival := c.survival.bounds
  birth := c.birth.bounds
  code := c.shape.code

def Record.values (r : Record) : Values where
  radius := r.radius.toInt
  depth := r.decayStates.toInt
  aging := r.agingEnabled.toInt
  survival := (r.survivalInterval.1.toInt, r.survivalInterval.2.toInt)
  birth := (r.birthInterval.1.toInt, r.birthInterval.2.toInt)
  code := r.neighbourhoodCode

/-! ### Values of rulesets -/

namespace Interval

theorem bounds_admitted (i : Interval) :
    0 ≤ i.bounds.1 ∧ i.bounds.1 ≤ i.bounds.2 ∧ i.bounds.2 ≤ 65535 := by
  have ordered : i.min.toNat ≤ i.max.toNat := i.ordered
  have fits := i.max.toNat_lt
  simp only [bounds]
  omega

theorem exists_bounds_eq {p : Int × Int} (h : 0 ≤ p.1 ∧ p.1 ≤ p.2 ∧ p.2 ≤ 65535) :
    ∃ i : Interval, i.bounds = p := by
  have low : (UInt16.ofNat p.1.toNat).toNat = p.1.toNat :=
    UInt16.toNat_ofNat_of_lt' (by simp only [UInt16.size]; omega)
  have high : (UInt16.ofNat p.2.toNat).toNat = p.2.toNat :=
    UInt16.toNat_ofNat_of_lt' (by simp only [UInt16.size]; omega)
  refine ⟨⟨.ofNat p.1.toNat, .ofNat p.2.toNat, ?_⟩, ?_⟩
  · rw [UInt16.le_iff_toNat_le, low, high]
    omega
  · simp only [bounds, low, high]
    exact Prod.ext (by simp only; omega) (by simp only; omega)

theorem bounds_injective {i j : Interval} (same : i.bounds = j.bounds) : i = j := by
  obtain ⟨low, high, _⟩ := i
  obtain ⟨low', high', _⟩ := j
  simp only [bounds, Prod.mk.injEq, Int.ofNat_inj, UInt16.toNat_inj] at same
  simp [same]

end Interval

namespace Shape

theorem code_admitted (shape : Shape) : shape.code = "NM" ∨ shape.code = "NN" := by
  cases shape <;> simp [code]

theorem exists_code_eq {s : String} (h : s = "NM" ∨ s = "NN") : ∃ shape : Shape, shape.code = s := by
  rcases h with rfl | rfl
  · exact ⟨.moore, rfl⟩
  · exact ⟨.vonNeumann, rfl⟩

theorem code_injective {shape shape' : Shape} (same : shape.code = shape'.code) :
    shape = shape' := by
  have parsed := ofCode_code shape
  rw [same, ofCode_code] at parsed
  exact (Except.ok.inj parsed).symm

end Shape

theorem flag_injective {b b' : Bool} (same : b.toNat = b'.toNat) : b = b' := by
  revert same
  cases b <;> cases b' <;> decide

namespace Configuration

theorem admitted_values (c : Configuration) : c.values.Admitted where
  radius := by
    have := c.radius_pos
    have := c.radius_le
    simp only [values]
    omega
  depth := by
    have := c.depth_le
    simp only [values]
    omega
  aging := by cases h : c.aging <;> simp [values, h]
  survival := c.survival.bounds_admitted
  birth := c.birth.bounds_admitted
  code := c.shape.code_admitted

/-- Values in their domains are those of a ruleset. -/
theorem exists_values_eq {v : Values} (h : v.Admitted) : ∃ c : Configuration, c.values = v := by
  obtain ⟨survival, hs⟩ := Interval.exists_bounds_eq h.survival
  obtain ⟨birth, hb⟩ := Interval.exists_bounds_eq h.birth
  obtain ⟨shape, hk⟩ := Shape.exists_code_eq h.code
  have radius := h.radius
  have depth := h.depth
  refine ⟨⟨v.radius.toNat, v.depth.toNat, v.aging == 1, survival, birth, shape,
    by omega, by omega, by omega⟩, ?_⟩
  have flag : ((v.aging == 1).toNat : Int) = v.aging := by
    rcases h.aging with e | e <;> rw [e] <;> rfl
  simp only [values, hs, hb, hk, flag, Int.toNat_of_nonneg (Int.le_trans (by decide) radius.1),
    Int.toNat_of_nonneg depth.1]

/-- No two rulesets have the same values. -/
theorem values_injective {c c' : Configuration} (same : c.values = c'.values) : c = c' := by
  simp only [values, Values.mk.injEq, Int.ofNat_inj] at same
  obtain ⟨radius, depth, aging, survival, birth, code⟩ := same
  cases c
  cases c'
  simp only [mk.injEq]
  exact ⟨radius, depth, flag_injective aging, Interval.bounds_injective survival,
    Interval.bounds_injective birth, Shape.code_injective code⟩

/-- A ruleset is created from its own fields and from nothing else. -/
theorem create_eq_ok_iff {radius depth : Nat} {aging : Bool} {survival birth : UInt16 × UInt16}
    {shape : Shape} {c : Configuration} :
    create radius depth aging survival birth shape = .ok c ↔
      radius = c.radius ∧ depth = c.depth ∧ aging = c.aging ∧ survival = c.survival.ends ∧
        birth = c.birth.ends ∧ shape = c.shape := by
  constructor
  · intro h
    unfold create at h
    split at h
    · split at h
      · simp only [bind_eq_ok_iff, pure_eq_ok_iff, Interval.create_eq_ok_iff] at h
        obtain ⟨_, survival_eq, _, birth_eq, rfl⟩ := h
        exact ⟨rfl, rfl, rfl, survival_eq, birth_eq, rfl⟩
      · cases h
    · cases h
  · rintro ⟨rfl, rfl, rfl, rfl, rfl, rfl⟩
    exact create_fields c

end Configuration

end LargerThanLife
