import LargerThanLife.Proofs.Random.Sampler
import LargerThanLife.Proofs.Values
import LargerThanLife.Random.Ruleset

/-! The values of a random ruleset. `Drawn` puts together the integers that a generator gives for the
fields, one after another, and asks nothing of them. They lie in their domains all the same, since each
range is that of its field and the upper end of an interval is looked for from the lower end on. So the
values that are drawn are always those of a ruleset, and this ruleset is the one that is drawn. -/

namespace LargerThanLife

open LargerThanLife.Random

/-- The generator gives the two ends of an interval. -/
def SampledEnds (g : Generator) (ends : ℤ × ℤ) (g' : Generator) : Prop :=
  ∃ g₁, Sampled .count 0 65535 g ends.1 g₁ ∧ Sampled .count ends.1 65535 g₁ ends.2 g'

/-- The generator gives the values of a ruleset, in the order of the fields. -/
inductive Drawn (g : Generator) : Values → Generator → Prop
  | fields (aging moore : Bool) {radius depth : ℤ} {survival birth : ℤ × ℤ}
    {g₁ g₂ g₃ g₄ g₅ g' : Generator} :
    Sampled .byte 1 10 g radius g₁ → Sampled .byte 0 25 g₁ depth g₂ →
    toss .half g₂ = (aging, g₃) → SampledEnds g₃ survival g₄ → SampledEnds g₄ birth g₅ →
    toss .half g₅ = (moore, g') →
    Drawn g ⟨radius, depth, aging.toNat, survival, birth, if moore then "NM" else "NN"⟩ g'

variable {g g' : Generator} {v : Values}

/-! ### Domains -/

theorem SampledEnds.in_order {ends : ℤ × ℤ} (sampled : SampledEnds g ends g') :
    0 ≤ ends.1 ∧ ends.1 ≤ ends.2 ∧ ends.2 ≤ 65535 := by
  obtain ⟨g₁, lower, upper⟩ := sampled
  have lower_range := lower.in_range (by decide) (by decide) (by decide)
  -- wherever the lower end lies, there are counts from it on
  have upper_range := upper.in_range lower_range.2 (by rw [IntKind.min_count]; exact lower_range.1)
    (by decide)
  exact ⟨lower_range.1, upper_range⟩

theorem Drawn.admitted (drawn : Drawn g v g') : v.Admitted := by
  cases drawn with
  | fields aging moore radius depth _ survival birth =>
    exact {
      radius := radius.in_range (by decide) (by decide) (by decide)
      depth := depth.in_range (by decide) (by decide) (by decide)
      aging := by cases aging <;> simp
      survival := survival.in_order
      birth := birth.in_order
      code := by cases moore <;> simp }

/-! ### Draws field by field -/

theorem drawBool_eq_some_iff {chance : Chance} {b : Bool} :
    drawBool chance g = some (b, g') ↔ toss chance g = (b, g') :=
  Option.some_inj

theorem drawByte_eq_some_iff {low high : ℕ} (ordered : low ≤ high) (fits : high ≤ 255)
    {r : { n : ℕ // low ≤ n ∧ n ≤ high }} :
    drawByte low high ordered fits g = some (r, g') ↔ Sampled .byte low high g (r : ℕ) g' := by
  obtain ⟨n, in_range⟩ := r
  simp only [drawByte, draw_bind_eq_some_iff, drawBetween_eq_some_iff, draw_pure_eq_some_iff,
    Subtype.mk.injEq]
  constructor
  · rintro ⟨v, _, sampled, rfl, rfl⟩
    rwa [Int.toNat_of_nonneg (by have := v.property; omega)]
  · intro sampled
    exact ⟨⟨n, by omega⟩, g', sampled, Int.toNat_natCast n, rfl⟩

theorem drawCount_eq_some_iff {low : UInt16} {r : { n : UInt16 // low ≤ n }} :
    drawCount low g = some (r, g') ↔ Sampled .count low.toNat 65535 g r.val.toNat g' := by
  obtain ⟨n, above⟩ := r
  simp only [drawCount, draw_bind_eq_some_iff, drawBetween_eq_some_iff, draw_pure_eq_some_iff,
    Subtype.mk.injEq]
  have small := n.toNat_lt
  constructor
  · rintro ⟨v, _, sampled, rfl, rfl⟩
    have in_range := v.property
    rwa [UInt16.toNat_ofNat_of_lt' (by simp only [UInt16.size]; omega),
      Int.toNat_of_nonneg (by omega)]
  · intro sampled
    rw [UInt16.le_iff_toNat_le] at above
    exact ⟨⟨n.toNat, by omega⟩, g', sampled, by simp, rfl⟩

theorem Interval.draw_eq_some_iff {i : Interval} :
    Interval.draw g = some (i, g') ↔ SampledEnds g i.bounds g' := by
  obtain ⟨min, max, ordered⟩ := i
  simp only [Interval.draw, draw_bind_eq_some_iff, draw_pure_eq_some_iff, drawCount_eq_some_iff,
    Interval.mk.injEq, SampledEnds, Interval.bounds]
  constructor
  · rintro ⟨min, g₁, lower, max, _, upper, ⟨rfl, rfl⟩, rfl⟩
    exact ⟨g₁, lower, upper⟩
  · rintro ⟨g₁, lower, upper⟩
    exact ⟨⟨min, UInt16.le_iff_toNat_le.mpr (Nat.zero_le _)⟩, g₁, lower, ⟨max, ordered⟩, g', upper,
      ⟨rfl, rfl⟩, rfl⟩

theorem Shape.draw_eq_some_iff {shape : Shape} :
    Shape.draw g = some (shape, g') ↔
      ∃ moore, toss .half g = (moore, g') ∧ shape.code = if moore then "NM" else "NN" := by
  simp only [Shape.draw, draw_bind_eq_some_iff, draw_pure_eq_some_iff, drawBool_eq_some_iff]
  constructor
  · rintro ⟨moore, _, tossed, rfl, rfl⟩
    exact ⟨moore, tossed, by cases moore <;> rfl⟩
  · rintro ⟨moore, tossed, code⟩
    exact ⟨moore, g', tossed, Shape.code_injective (by rw [code]; cases moore <;> rfl), rfl⟩

namespace Configuration

/-- A ruleset is drawn when its values are. -/
theorem draw_eq_some_iff {c : Configuration} : draw g = some (c, g') ↔ Drawn g c.values g' := by
  simp only [draw, draw_bind_eq_some_iff, draw_pure_eq_some_iff, drawByte_eq_some_iff,
    drawBool_eq_some_iff, Interval.draw_eq_some_iff, Shape.draw_eq_some_iff]
  constructor
  · rintro ⟨_, _, radius, _, _, depth, aging, _, tossed, _, _, survival, _, _, birth, shape, _,
      ⟨moore, tossed', code⟩, rfl, rfl⟩
    rw [values, code]
    exact .fields aging moore radius depth tossed survival birth tossed'
  · intro drawn
    generalize same : c.values = v at drawn
    cases drawn with
    | fields aging moore radius depth tossed survival birth tossed' =>
      simp only [values, Values.mk.injEq, Int.natCast_inj] at same
      obtain ⟨rfl, rfl, flag, rfl, rfl, code⟩ := same
      obtain rfl := flag_injective flag
      exact ⟨⟨c.radius, c.radius_pos, c.radius_le⟩, _, radius,
        ⟨c.depth, Nat.zero_le _, c.depth_le⟩, _, depth, _, _, tossed, c.survival, _, survival,
        c.birth, _, birth, c.shape, _, ⟨moore, tossed', code⟩, rfl, rfl⟩

end Configuration

end LargerThanLife
