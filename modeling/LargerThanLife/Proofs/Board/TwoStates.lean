import LargerThanLife.Proofs.Board.Census

/-! Boards without aging. When live cells do not decay, the only way into decay is to be put there. So a
board of dead and live cells stays one, whatever else is done with it. Decay that was put on a board by
hand runs out as it does with aging, and nothing follows it. -/

namespace LargerThanLife.Board

variable {width height : ℕ} {c : Configuration} {b next : Board} {ops : List Operation}

/-- Whenever the operations put a cell into a state and are not refused, it is dead or alive then. -/
def PutsNoDecay (b : Board) (ops : List Operation) : Prop :=
  ∀ before x y state after, ops = before ++ .set x y state :: after →
    ((b.run before).set x y state).isOk → state ≤ Cell.alive

theorem putsNoDecay_cons_iff {op : Operation} : b.PutsNoDecay (op :: ops) ↔
    (∀ x y state, op = .set x y state → (b.set x y state).isOk → state ≤ Cell.alive) ∧
      (b.after op).PutsNoDecay ops := by
  constructor
  · intro put
    refine ⟨fun x y state first => ?_, ?_⟩
    · exact put [] x y state ops (by rw [first, List.nil_append])
    · rintro before x y state after rfl
      exact put (op :: before) x y state after rfl
  · rintro ⟨first, later⟩ (_ | ⟨_, before⟩) x y state after split
    · obtain ⟨rfl, rfl⟩ := List.cons.inj split
      exact first x y state rfl
    · obtain ⟨rfl, rest⟩ := List.cons.inj split
      exact later before x y state after rest

/-! ### One operation -/

theorem calm_of_ages_eq_false (sound : Sound width height c b) (stays : c.ages = false) : b.Calm := by
  rw [← sound.configuration_eq] at stays
  exact .inl stays

theorem le_alive_step (sound : Sound width height c b) (stays : c.ages = false)
    (young : b.Everywhere (· ≤ Cell.alive)) : b.step.Everywhere (· ≤ Cell.alive) := by
  refine young.step sound fun x y state le => ?_
  by_contra decaying
  rcases Configuration.decaying_of_transition (Nat.lt_of_not_le decaying) with ⟨-, ages⟩ | ⟨decayed, -⟩
  · exact Bool.false_ne_true (stays.symm.trans ages)
  · exact Nat.not_succ_le_self 1 (decayed.trans le)

theorem le_alive_stepN (sound : Sound width height c b) (stays : c.ages = false)
    (young : b.Everywhere (· ≤ Cell.alive)) (n : ℕ) :
    (stepN n b).Everywhere (· ≤ Cell.alive) := by
  induction n generalizing b with
  | zero => exact young
  | succ n ih => exact ih sound.step (le_alive_step sound stays young)

theorem le_alive_apply (sound : Sound width height c b) (stays : c.ages = false)
    (young : b.Everywhere (· ≤ Cell.alive)) {op : Operation} (applied : b.apply op = .ok next)
    (put : ∀ x y state, op = .set x y state → state ≤ Cell.alive) :
    next.Everywhere (· ≤ Cell.alive) := by
  cases op with
  | set x y state =>
    obtain ⟨-, -, rfl⟩ := set_eq_ok_iff.mp applied
    exact young.changeAt _ fun _ _ => put x y state rfl
  | raise x y =>
    obtain ⟨-, rfl⟩ := change_eq_ok_iff.mp applied
    refine young.changeAt _ fun state le => ?_
    split
    · exact le_rfl
    · exact le
  | kill x y =>
    obtain ⟨-, rfl⟩ := change_eq_ok_iff.mp applied
    exact young.changeAt _ fun _ _ => Nat.zero_le _
  | step => cases applied; exact le_alive_step sound stays young
  | stepN n => cases applied; exact le_alive_stepN sound stays young n
  | fill g => cases applied; exact everywhere_fill b g
  | reset =>
    cases applied
    exact (everywhere_reset b).imp fun _ dead => dead ▸ Nat.zero_le _

/-! ### A course of operations -/

theorem le_alive_run (sound : Sound width height c b) (stays : c.ages = false)
    (young : b.Everywhere (· ≤ Cell.alive)) (put : b.PutsNoDecay ops) :
    (b.run ops).Everywhere (· ≤ Cell.alive) := by
  induction ops generalizing b with
  | nil => exact young
  | cons op ops ih =>
    obtain ⟨first, later⟩ := putsNoDecay_cons_iff.mp put
    refine ih (sound.after op) ?_ later
    unfold after
    split
    · next applied =>
      refine le_alive_apply sound stays young applied ?_
      rintro x y state rfl
      exact first x y state rfl (congrArg Except.isOk applied)
    · exact young

/-- On a board that some course of events led to, under whose ruleset live cells do not decay: if all
cells are dead or alive, they are so after any operations that put no cell into decay; and whatever
states they are in, they are dead or alive after as many steps as there are stages of decay. -/
theorem two_states_course (reach : b.Reachable) (stays : b.configuration.ages = false) :
    (b.Everywhere (· ≤ Cell.alive) → ∀ ops, b.PutsNoDecay ops →
      (b.run ops).Everywhere (· ≤ Cell.alive)) ∧
      ∀ n, max b.configuration.depth 1 - 1 ≤ n → (stepN n b).Everywhere (· ≤ Cell.alive) := by
  have sound := reach.sound
  refine ⟨fun young ops put => le_alive_run sound stays young put, fun n long => ?_⟩
  exact le_alive_of_calm sound long fun k _ => calm_of_ages_eq_false (sound.stepN k) stays

/-- A ruleset with two stages of decay, which live cells do not enter. Of three settings to states past
life the first two are refused; the third is not, and its cell is dead after two steps and not before. -/
theorem two_states_course_put :
    ∃ b : Board, b.Reachable ∧ b.configuration.ages = false ∧ b.configuration.depth = 3 ∧
      b.Everywhere (· ≤ Cell.alive) ∧
      (b.run [.set 0 0 4, .raise 1 1, .set 3 0 2, .step]).Everywhere (· ≤ Cell.alive) ∧
      ¬(b.run [.set 2 0 2, .step]).Everywhere (· ≤ Cell.alive) ∧
      (b.run [.set 2 0 2, .stepN 2]).Everywhere (· ≤ Cell.alive) := by
  let start := blank 3 2 { Configuration.decaying with aging := false }
  let b := start.run [.raise 0 0, .raise 1 0, .raise 0 1]
  have reach : b.Reachable := ⟨.usual, 3, 2, _, start, _, rfl, rfl⟩
  have stays : b.configuration.ages = false := by decide +kernel
  have young : b.Everywhere (· ≤ Cell.alive) := by decide +kernel
  have put : b.PutsNoDecay [.set 0 0 4, .raise 1 1, .set 3 0 2, .step] := by
    simp only [putsNoDecay_cons_iff]
    refine ⟨?_, ?_, ?_, ?_, ?_⟩
    · rintro _ _ _ ⟨⟩ accepted
      exact absurd accepted (by decide +kernel)
    · rintro _ _ _ ⟨⟩
    · rintro _ _ _ ⟨⟩ accepted
      exact absurd accepted (by decide +kernel)
    · rintro _ _ _ ⟨⟩
    · rintro before _ _ _ _ none
      exact absurd none (by simp)
  obtain ⟨kept, -⟩ := two_states_course reach stays
  obtain ⟨-, flushed⟩ := two_states_course (reach.after (.set 2 0 2)) (by decide +kernel)
  exact ⟨b, reach, stays, by decide +kernel, young, kept young _ put, by decide +kernel,
    flushed 2 (by decide +kernel)⟩

end LargerThanLife.Board
