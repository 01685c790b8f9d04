import LargerThanLife.Proofs.Json.Judgement
import LargerThanLife.Proofs.Random.Ruleset
import LargerThanLife.Proofs.Rulestring.Grammar

/-! Where rulesets come from. A ruleset is created from values, read from a text or a stored form, or
drawn. Each source offers values, and the ruleset that comes from it is the one with these values. Of
values, texts and stored forms it is asked whether they lie in their domains; of those that are drawn it
is not, and need not be. -/

namespace LargerThanLife

/-- What a ruleset can be made from. -/
inductive Source where
  | values (radius depth : ℕ) (aging : Bool) (survival birth : UInt16 × UInt16) (shape : Shape)
  | rulestring (text : String)
  | record (r : Record)
  | json (text : String)
  | generator (g : Generator)
  | seed (s : UInt64)

namespace Source

/-- The ruleset from a source; none if it is refused, or if its draws never come to an end. -/
def ruleset? : Source → Option Configuration
  | values radius depth aging survival birth shape =>
    (Configuration.create radius depth aging survival birth shape).toOption
  | rulestring text => (Configuration.ofRulestring text).toOption
  | record r => r.validate.toOption
  | json text => (Configuration.ofJson text).toOption
  | generator g => (Configuration.draw g).map Prod.fst
  | seed s => Configuration.ofSeed s

/-- The values that a source offers, whether they are those of a ruleset or not. -/
def Offers : Source → Values → Prop
  | values radius depth aging survival birth shape, v =>
    v = ⟨radius, depth, aging.toNat, (survival.1.toNat, survival.2.toNat),
      (birth.1.toNat, birth.2.toNat), shape.code⟩
  | rulestring text, v => Rulestring.Spells text.toList v
  | record r, v => r.values = v
  | json text, v => ∃ r, Record.ofJson text = .ok r ∧ r.values = v
  | generator g, v => ∃ g', Drawn g v g'
  | seed s, v => ∃ g', Drawn (Generator.ofSeed s) v g'

/-- The source draws, and nothing is asked of its values. -/
inductive Draws : Source → Prop
  | generator (g : Generator) : Draws (generator g)
  | seed (s : UInt64) : Draws (seed s)

end Source

variable {c : Configuration}

namespace Source

variable {source : Source}

/-- The ruleset from a source is the one with the values that the source offers. -/
theorem ruleset?_eq_some_iff : source.ruleset? = some c ↔ source.Offers c.values := by
  cases source with
  | values radius depth aging survival birth shape =>
    rw [ruleset?, toOption_eq_some_iff, Configuration.create_eq_ok_iff, Offers]
    constructor
    · rintro ⟨rfl, rfl, rfl, rfl, rfl, rfl⟩
      rfl
    · intro same
      simp only [Configuration.values, Interval.bounds, Values.mk.injEq, Prod.mk.injEq,
        Int.natCast_inj, UInt16.toNat_inj] at same
      obtain ⟨radius, depth, aging, survival, birth, code⟩ := same
      exact ⟨radius.symm, depth.symm, (flag_injective aging).symm, Prod.ext survival.1.symm survival.2.symm,
        Prod.ext birth.1.symm birth.2.symm, (Shape.code_injective code).symm⟩
  | rulestring text =>
    rw [ruleset?, toOption_eq_some_iff]
    exact Rulestring.parse_eq_ok_iff_spells
  | record r =>
    rw [ruleset?, toOption_eq_some_iff]
    exact Record.validate_eq_ok_iff
  | json text =>
    simp only [ruleset?, toOption_eq_some_iff, Json.ofJson_eq_ok_iff, Record.validate_eq_ok_iff, Offers]
  | generator g =>
    simp only [ruleset?, Offers, Option.map_eq_some_iff, Prod.exists, exists_and_right,
      exists_eq_right, Configuration.draw_eq_some_iff]
  | seed s =>
    simp only [ruleset?, Configuration.ofSeed, Offers, Option.map_eq_some_iff, Prod.exists, exists_and_right,
      exists_eq_right, Configuration.draw_eq_some_iff]

/-- What is drawn need not be judged. -/
theorem Draws.admitted {v : Values} (draws : source.Draws) (offered : source.Offers v) : v.Admitted := by
  cases draws with
  | generator g =>
    obtain ⟨_, drawn⟩ := offered
    exact drawn.admitted
  | seed s =>
    obtain ⟨_, drawn⟩ := offered
    exact drawn.admitted

/-- Whatever a ruleset comes from, it is the one with the values that were offered, these lie in their
domains, and creating a ruleset from its own fields gives it again. Values that are drawn lie in their
domains although nothing is asked of them. -/
theorem ruleset_valid (source : Source) :
    (∀ c, source.ruleset? = some c ↔ source.Offers c.values) ∧
      (∀ c, source.ruleset? = some c → c.values.Admitted ∧
        Configuration.create c.radius c.depth c.aging c.survival.ends c.birth.ends c.shape = .ok c) ∧
      (source.Draws → ∀ v, source.Offers v → v.Admitted) :=
  ⟨fun _ => ruleset?_eq_some_iff, fun c _ => ⟨c.admitted_values, c.create_fields⟩,
    fun draws _ => draws.admitted⟩

theorem ruleset_valid_drawn :
    ∃ c, (seed 4).ruleset? = some c ∧ c.rulestring = "R10,C18,M1,S10225..58815,B63048..64942,NM" ∧
      (seed 4).Offers c.values ∧ c.values.Admitted ∧
      Configuration.create c.radius c.depth c.aging c.survival.ends c.birth.ends c.shape = .ok c := by
  let c : Configuration := ⟨10, 18, true, ⟨10225, 58815, by decide⟩, ⟨63048, 64942, by decide⟩, .moore,
    by decide, by decide, by decide⟩
  have drawn : (seed 4).ruleset? = some c := by decide +kernel
  obtain ⟨same, valid, unasked⟩ := ruleset_valid (seed 4)
  have offered := (same c).mp drawn
  exact ⟨c, drawn, by decide +kernel, offered, unasked (.seed 4) _ offered, (valid c drawn).2⟩

end Source

end LargerThanLife
