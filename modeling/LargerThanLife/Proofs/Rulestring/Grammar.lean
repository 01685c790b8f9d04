import LargerThanLife.Proofs.Text.Spelling
import LargerThanLife.Proofs.Values
import LargerThanLife.Rulestring

/-! The language of rulestrings. `Spells` is a grammar: it tells which texts spell which values, and
says nothing of how a text is read. Reading a text finds the ruleset with the values that the text
spells, and refuses the text when it spells none, or values out of their domains. -/

namespace LargerThanLife.Rulestring

open Text Numeral

/-- Two numerals with two dots between them. -/
inductive SpellsRange : List Char → ℕ → ℕ → Prop
  | dots {low high : List Char} {m n : ℕ} : Unsigned low m → Unsigned high n →
    SpellsRange (low ++ '.' :: '.' :: high) m n

/-- The text spells the values: there are six tokens between commas, five with a letter in front and
the code as it is. -/
inductive Spells : List Char → Values → Prop
  | six {s radius depth aging survival birth code : List Char} {r d a s₁ s₂ b₁ b₂ : ℕ} :
    Tokens ',' s ['R' :: radius, 'C' :: depth, 'M' :: aging, 'S' :: survival, 'B' :: birth, code] →
    Unsigned radius r → Unsigned depth d → Unsigned aging a →
    SpellsRange survival s₁ s₂ → SpellsRange birth b₁ b₂ →
    Spells s ⟨r, d, a, (s₁, s₂), (b₁, b₂), String.ofList code⟩

variable {tag : Char} {field : Field} {token : List Char} {c : Configuration}

/-! ### Token by token -/

theorem untag_eq_ok_iff {rest : List Char} :
    untag tag field token = .ok rest ↔ token = tag :: rest := by
  unfold untag
  split
  · simp
  · next d r =>
    split
    · next same => simp [same]
    · next other => simp [other]

theorem number_eq_ok_iff {limit n : ℕ} :
    number tag field limit token = .ok n ↔
      ∃ value, token = tag :: value ∧ Unsigned value n ∧ n ≤ limit := by
  simp only [number, bind_eq_ok_iff, untag_eq_ok_iff]
  refine exists_congr fun value => and_congr_right fun _ => ?_
  rw [← readUpTo_eq_some_iff]
  cases readUpTo limit value with
  | none => simp
  | some m => simp [pure_eq_ok_iff]

theorem count_eq_ok_iff {value : List Char} {n : UInt16} :
    count field value = .ok n ↔ Unsigned value n.toNat := by
  unfold count
  constructor
  · intro h
    split at h
    · next m read =>
      obtain ⟨spelled, fits⟩ := readUpTo_eq_some_iff.mp read
      cases h
      rwa [UInt16.toNat_ofNat_of_lt' (Nat.lt_succ_of_le fits)]
    · cases h
  · intro spelled
    have fits : n.toNat ≤ 65535 := Nat.le_of_lt_succ n.toNat_lt
    rw [readUpTo_eq_some_iff.mpr ⟨spelled, fits⟩]
    simp only [UInt16.ofNat_toNat]

theorem range_eq_ok_iff {ends : UInt16 × UInt16} :
    range tag field token = .ok ends ↔
      ∃ body, token = tag :: body ∧ SpellsRange body ends.1.toNat ends.2.toNat := by
  simp only [range, bind_eq_ok_iff, untag_eq_ok_iff]
  refine exists_congr fun body => and_congr_right fun _ => ?_
  constructor
  · intro h
    split at h
    · cases h
    · next low high cut =>
      simp only [bind_eq_ok_iff, pure_eq_ok_iff, count_eq_ok_iff] at h
      obtain ⟨m, spelled, n, spelled', rfl⟩ := h
      rw [eq_of_cutAtDots cut]
      exact .dots spelled spelled'
  · intro h
    obtain ⟨m, n⟩ := ends
    cases h with
    | dots spelled spelled' =>
      -- a numeral holds no dot, so the first pair of dots is the one in between
      simp only [cutAtDots_append spelled.dot_not_mem, bind_eq_ok_iff, pure_eq_ok_iff,
        count_eq_ok_iff]
      exact ⟨m, spelled, n, spelled', rfl⟩

theorem flag_eq_ok_iff {n : ℕ} {b : Bool} : flag n = .ok b ↔ n = b.toNat := by
  unfold flag
  split
  · cases b <;> simp
  · cases b <;> simp
  · next n off on =>
    refine ⟨(nomatch ·), fun same => ?_⟩
    cases b with
    | false => exact absurd same off
    | true => exact absurd same on

/-! ### All tokens together -/

theorem ofParts_eq_ok_iff {radius depth aging survival birth code : List Char} :
    ofParts radius depth aging survival birth code = .ok c ↔
      (∃ value, radius = 'R' :: value ∧ Unsigned value c.radius) ∧
      (∃ value, depth = 'C' :: value ∧ Unsigned value c.depth) ∧
      (∃ value, aging = 'M' :: value ∧ Unsigned value c.aging.toNat) ∧
      (∃ body, survival = 'S' :: body ∧ SpellsRange body c.survival.min.toNat c.survival.max.toNat) ∧
      (∃ body, birth = 'B' :: body ∧ SpellsRange body c.birth.min.toNat c.birth.max.toNat) ∧
      code = c.shape.code.toList := by
  simp only [ofParts, bind_eq_ok_iff, number_eq_ok_iff, flag_eq_ok_iff, range_eq_ok_iff,
    Shape.ofCode_eq_ok_iff, Configuration.create_eq_ok_iff]
  constructor
  · rintro ⟨_, ⟨_, hr, radius, -⟩, _, ⟨_, hd, depth, -⟩, _, ⟨_, ha, aging, -⟩, _, rfl, _, survival, _,
      birth, _, code, rfl, rfl, rfl, rfl, rfl, rfl⟩
    exact ⟨⟨_, hr, radius⟩, ⟨_, hd, depth⟩, ⟨_, ha, aging⟩, survival, birth, by rw [← code, String.toList_ofList]⟩
  · rintro ⟨⟨_, hr, radius⟩, ⟨_, hd, depth⟩, ⟨_, ha, aging⟩, survival, birth, code⟩
    have radius_le := c.radius_le
    have depth_le := c.depth_le
    have aging_le := c.aging.toNat_le
    exact ⟨_, ⟨_, hr, radius, by omega⟩, _, ⟨_, hd, depth, by omega⟩, _, ⟨_, ha, aging, by omega⟩,
      _, rfl, c.survival.ends, survival, c.birth.ends, birth, _, by rw [code, String.ofList_toList],
      rfl, rfl, rfl, rfl, rfl, rfl⟩

theorem parse_eq_ok_iff {s : List Char} :
    parse s = .ok c ↔ ∃ radius depth aging survival birth code,
      Tokens ',' s [radius, depth, aging, survival, birth, code] ∧
        ofParts radius depth aging survival birth code = .ok c := by
  simp only [← map_trim_pieces_eq_iff (List.cons_ne_nil _ _)]
  unfold parse
  constructor
  · intro h
    split at h
    · next six => exact ⟨_, _, _, _, _, _, six, h⟩
    · cases h
  · rintro ⟨_, _, _, _, _, _, six, h⟩
    rw [six]
    exact h

/-- A text is read as a ruleset exactly when it spells the values of the ruleset. -/
theorem parse_eq_ok_iff_spells {s : List Char} : parse s = .ok c ↔ Spells s c.values := by
  simp only [parse_eq_ok_iff, ofParts_eq_ok_iff]
  constructor
  · rintro ⟨_, _, _, _, _, _, tokens, ⟨_, rfl, radius⟩, ⟨_, rfl, depth⟩, ⟨_, rfl, aging⟩,
      ⟨_, rfl, survival⟩, ⟨_, rfl, birth⟩, rfl⟩
    have spelled := Spells.six tokens radius depth aging survival birth
    rwa [String.ofList_toList] at spelled
  · intro spelled
    generalize values : c.values = v at spelled
    cases spelled with
    | six tokens radius depth aging survival birth =>
      simp only [Configuration.values, Interval.bounds, Values.mk.injEq, Prod.mk.injEq,
        Int.ofNat_inj] at values
      obtain ⟨rfl, rfl, rfl, ⟨rfl, rfl⟩, ⟨rfl, rfl⟩, code⟩ := values
      exact ⟨_, _, _, _, _, _, tokens, ⟨_, rfl, radius⟩, ⟨_, rfl, depth⟩, ⟨_, rfl, aging⟩,
        ⟨_, rfl, survival⟩, ⟨_, rfl, birth⟩, by rw [code, String.toList_ofList]⟩

/-- The texts that are accepted are those that spell values in their domains, and they are read as the
ruleset with these values. -/
theorem ofRulestring_eq_ok_iff (s : String) :
    (∀ c, Configuration.ofRulestring s = .ok c ↔
        ∃ v, Spells s.toList v ∧ v.Admitted ∧ c.values = v) ∧
      ((∃ c, Configuration.ofRulestring s = .ok c) ↔ ∃ v, Spells s.toList v ∧ v.Admitted) := by
  simp only [Configuration.ofRulestring, parse_eq_ok_iff_spells]
  constructor
  · intro c
    constructor
    · exact fun spelled => ⟨c.values, spelled, c.admitted_values, rfl⟩
    · rintro ⟨_, spelled, -, rfl⟩
      exact spelled
  · constructor
    · rintro ⟨c, spelled⟩
      exact ⟨c.values, spelled, c.admitted_values⟩
    · rintro ⟨v, spelled, admitted⟩
      obtain ⟨c, rfl⟩ := Configuration.exists_values_eq admitted
      exact ⟨c, spelled⟩

/-- Of three dots the first two are the ones between the ends, and `.3` is no numeral. -/
example : Configuration.ofRulestring "R1,C0,M0,S2...3,B3..3,NM" =
    .error (.invalid (.field .survivalInterval) (.notCount ".3")) := rfl

end LargerThanLife.Rulestring
