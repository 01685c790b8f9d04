import LargerThanLife.Proofs.Board.Observation
import LargerThanLife.Proofs.Board.Neighbours

/-! Rulesets that no board can tell apart. A count of live neighbours never exceeds the number of
neighbours, so an interval matters only up to that number; and a board never asks for the depth of
decay or for the flag of aging by themselves, only for the greatest state and for whether live cells
decay at all. Rulesets that agree in this govern boards that cannot be told apart. -/

namespace LargerThanLife

namespace Configuration

variable {c c' : Configuration}

/-- The two rulesets agree in all that matters on a board. -/
structure Alike (c c' : Configuration) : Prop where
  shape_eq : c.shape = c'.shape
  radius_eq : c.radius = c'.radius
  maxState_eq : c.maxState = c'.maxState
  ages_eq : c.ages = c'.ages
  survival_eq : ∀ live ≤ c.neighbourCount, c.survival.contains live = c'.survival.contains live
  birth_eq : ∀ live ≤ c.neighbourCount, c.birth.contains live = c'.birth.contains live

theorem Alike.offsets_eq (alike : Alike c c') : c.offsets = c'.offsets := by
  rw [offsets, offsets, alike.shape_eq, alike.radius_eq]

/-- A cell takes the same turn under both rulesets. Their depths can differ only below the first
stage of decay, where every decaying cell dies at once. -/
theorem Alike.transition_eq (alike : Alike c c') (state : Cell) {live : ℕ}
    (le : live ≤ c.neighbourCount) : c.transition state live = c'.transition state live := by
  match state with
  | 0 => simp only [transition, alike.birth_eq live le]
  | 1 => simp only [transition, alike.survival_eq live le, alike.ages_eq]
  | s + 2 =>
    have last : c.depth ≤ s + 2 ↔ c'.depth ≤ s + 2 := by
      have same := alike.maxState_eq
      unfold maxState at same
      omega
    simp only [transition, last]

end Configuration

namespace Board

variable {b b' : Board} {c' : Configuration}

/-- The boards differ at most in the ruleset, and their rulesets are alike. -/
structure Exchanged (b b' : Board) : Prop where
  alike : b.configuration.Alike b'.configuration
  offsets_eq : b.offsets = b.configuration.offsets
  eq : b' = { b with configuration := b'.configuration }

theorem Exchanged.of_alike (fits : b.offsets = b.configuration.offsets)
    (alike : b.configuration.Alike c') : Exchanged b { b with configuration := c' } :=
  ⟨alike, fits, rfl⟩

theorem Exchanged.step (exchanged : Exchanged b b') : Exchanged b.step b'.step := by
  obtain ⟨alike, fits, eq⟩ := exchanged
  have next (x y : ℕ) : b'.nextState x y = b.nextState x y := by
    rw [eq]
    exact (alike.transition_eq _ (countLive_le_neighbourCount fits x y)).symm
  refine ⟨alike, fits, ?_⟩
  rw [Board.step, funext₂ fun i (_ : Cell) => next (i % b'.width) (i / b'.width), eq]
  rfl

theorem Exchanged.stepN (exchanged : Exchanged b b') (n : ℕ) :
    Exchanged (Board.stepN n b) (Board.stepN n b') := by
  induction n generalizing b b' with
  | zero => exact exchanged
  | succ n ih => exact ih exchanged.step

theorem apply_matches_of_exchanged (exchanged : Exchanged b b') (op : Operation) :
    Matches Eq Exchanged (b.apply op) (b'.apply op) := by
  have kept := exchanged
  obtain ⟨alike, fits, eq⟩ := exchanged
  generalize b'.configuration = c' at alike eq
  subst eq
  have changed : ∀ x y f, Matches Eq Exchanged (b.change x y f)
      (change { b with configuration := c' } x y f) := by
    intro x y f
    refine (Matches.refl (b.index x y)).map ?_
    rintro i _ rfl
    exact .of_alike (b := b.changeAt i f) fits alike
  cases op with
  | set x y state =>
    refine (Matches.refl (b.index x y)).bind ?_
    rintro i _ rfl
    -- the greatest state decides what is refused, and it is named in the fault
    simp only [alike.maxState_eq]
    exact .ite (fun _ => .ok (.of_alike (b := b.changeAt i fun _ => state) fits alike))
      fun _ => .error rfl
  | raise x y => exact changed x y _
  | kill x y => exact changed x y _
  | step => exact .ok kept.step
  | stepN n => exact .ok (kept.stepN n)
  | fill g => exact .ok (.of_alike (b := (b.fill g).1) fits alike)
  | reset => exact .ok (.of_alike (b := b.reset) fits alike)

theorem ask_eq_of_exchanged (exchanged : Exchanged b b') (query : Query) :
    b.ask query = b'.ask query := by
  rw [exchanged.eq]
  cases query <;> rfl

theorem indistinguishable_of_exchanged (exchanged : Exchanged b b') : Indistinguishable b b' := by
  refine indistinguishable_of_relation (fun _ _ => apply_matches_of_exchanged)
    (fun _ _ => ask_eq_of_exchanged) ?_ ?_ exchanged
  · intro b b' exchanged
    rw [exchanged.eq]
  · intro b b' exchanged
    rw [exchanged.eq]
    rfl

/-- Boards of one size under rulesets that are alike are refused for the same fault, or cannot be told
apart by anything that is done with them. -/
theorem create_matches_of_alike {c : Configuration} (alike : c.Alike c') (memory : Memory)
    (width height : ℕ) : Matches Eq Indistinguishable (create memory width height c)
      (create memory width height c') := by
  have fresh : Indistinguishable (blank width height c) (blank width height c') := by
    refine indistinguishable_of_exchanged ⟨alike, rfl, ?_⟩
    simp only [blank, alike.offsets_eq]
  exact .ite (fun _ => .error rfl) fun _ => .ite (fun _ => .error rfl) fun _ =>
    .ite (fun _ => .ok fresh) fun _ => .error rfl

/-- Births from eight neighbours on are no different from births from as many as can be written, and a
single stage of decay with aging is no different from none without it. -/
theorem create_matches_of_alike_life :
    ∃ c c' : Configuration, c.birth.max = 8 ∧ c'.birth.max = 65535 ∧ c.depth = 0 ∧ c'.depth = 1 ∧
      c.aging ≠ c'.aging ∧ c.Alike c' ∧
      Matches Eq Indistinguishable (create .usual 5 4 c) (create .usual 5 4 c') := by
  let c : Configuration :=
    ⟨1, 0, false, ⟨2, 3, by decide⟩, ⟨3, 8, by decide⟩, .moore, by decide, by decide, by decide⟩
  let c' : Configuration :=
    ⟨1, 1, true, ⟨2, 3, by decide⟩, ⟨3, 65535, by decide⟩, .moore, by decide, by decide, by decide⟩
  have alike : c.Alike c' := ⟨rfl, rfl, rfl, rfl, by decide, by decide⟩
  exact ⟨c, c', rfl, rfl, rfl, rfl, by decide, alike, create_matches_of_alike alike .usual 5 4⟩

end Board

end LargerThanLife
