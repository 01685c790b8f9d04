import LargerThanLife.Proofs.Board.Decay

/-! What is true of all cells. The cells of a board are in the states that its coordinates show, so a
property of all of them is followed from one generation to the next by the rule alone. Here this is done
for decay. A cell decays only because it did so before or because a live cell began to. So while no live
cell begins to decay, the cells that still do are farther on with every step, and none is left after as
many steps as there are stages. -/

namespace LargerThanLife

/-- A decaying cell was at the stage before, or it was alive and live cells decay. -/
theorem Configuration.decaying_of_transition {c : Configuration} {state live : ℕ}
    (decaying : 2 ≤ c.transition state live) :
    state = Cell.alive ∧ c.ages = true ∨ 2 ≤ state ∧ c.transition state live = state + 1 := by
  match state with
  | 0 =>
    simp only [transition] at decaying
    split at decaying <;> simp at decaying
  | 1 =>
    simp only [transition] at decaying
    split at decaying
    · simp at decaying
    · split at decaying
      · next ages => exact .inl ⟨rfl, ages⟩
      · simp at decaying
  | s + 2 =>
    rw [transition_of_decaying (Nat.le_add_left 2 s)] at decaying ⊢
    split at decaying
    · next below => exact .inr ⟨Nat.le_add_left 2 s, if_pos below⟩
    · simp at decaying

namespace Board

variable {width height : ℕ} {c : Configuration} {b : Board} {x y : ℕ} {state : Cell}

theorem on_of_get (now : b.get x y = .ok state) : x < b.width ∧ y < b.height := by
  by_contra off
  simp [off] at now

/-- The cells are in the states that the coordinates show. -/
theorem mem_cells_iff (sound : Sound width height c b) :
    state ∈ b.cells ↔ ∃ x y, b.get x y = .ok state := by
  obtain rfl := sound.width_eq
  obtain rfl := sound.height_eq
  constructor
  · intro mem
    obtain ⟨i, bound, rfl⟩ := Array.mem_iff_getElem.mp mem
    obtain ⟨x, y, on, rfl⟩ := exists_place (sound.size_cells ▸ bound)
    refine ⟨x, y, ?_⟩
    simp [on, stateAt, bound]
  · rintro ⟨x, y, now⟩
    have on := on_of_get now
    simp only [get_of_mem on, Except.ok.injEq] at now
    exact now ▸ Array.mem_of_getElem? (sound.getElem?_cells on)

theorem Everywhere.of_get {P : Cell → Prop} (sound : Sound width height c b) (all : b.Everywhere P)
    (now : b.get x y = .ok state) : P state :=
  all state ((mem_cells_iff sound).mpr ⟨x, y, now⟩)

/-- If the rule takes states with one property to states with another one, then a step takes a board
with the first property everywhere to one with the second. -/
theorem Everywhere.step {P Q : Cell → Prop} (sound : Sound width height c b) (all : b.Everywhere P)
    (turn : ∀ x y state, P state → Q (c.transition state (b.countLive x y))) :
    b.step.Everywhere Q := by
  intro state mem
  obtain ⟨x, y, later⟩ := (mem_cells_iff sound.step).mp mem
  have on := sound.step.on_iff.mp (on_of_get later)
  obtain ⟨before, now⟩ := exists_get_eq_ok sound on
  rw [get_step_of_get sound on now] at later
  rw [← Except.ok.inj later]
  exact turn x y before (all.of_get sound now)

/-! ### Decay that only goes on -/

/-- A cell that decays has done so for a number of steps at least. -/
def DecaysSince (n : ℕ) (state : Cell) : Prop := 2 ≤ state → n + 2 ≤ state

/-- No live cell begins to decay in the next step. -/
def Calm (b : Board) : Prop := b.configuration.ages = false ∨ b.Everywhere (· ≠ Cell.alive)

theorem decaysSince_step {n : ℕ} (sound : Sound width height c b) (calm : b.Calm)
    (since : b.Everywhere (DecaysSince n)) : b.step.Everywhere (DecaysSince (n + 1)) := by
  obtain rfl := sound.configuration_eq
  -- the board is calm as a whole, and the rule asks it of each cell
  have both : b.Everywhere fun state =>
      (b.configuration.ages = false ∨ state ≠ Cell.alive) ∧ DecaysSince n state := by
    intro state mem
    exact ⟨calm.imp_right fun lifeless => lifeless state mem, since state mem⟩
  refine both.step sound fun x y state ⟨unbegun, earlier⟩ decaying => ?_
  rcases Configuration.decaying_of_transition decaying with ⟨alive, ages⟩ | ⟨decayed, next⟩
  · rcases unbegun with stays | other
    · exact absurd (stays.symm.trans ages) Bool.false_ne_true
    · exact absurd alive other
  · rw [next]
    have := earlier decayed
    omega

theorem decaysSince_stepN (sound : Sound width height c b) (n : ℕ)
    (calm : ∀ k < n, (stepN k b).Calm) : (stepN n b).Everywhere (DecaysSince n) := by
  induction n with
  | zero => exact fun state _ decaying => by rwa [Nat.zero_add]
  | succ n ih =>
    rw [stepN_succ_eq_step]
    exact decaysSince_step (sound.stepN n) (calm n n.lt_succ_self)
      (ih fun k before => calm k (Nat.lt_succ_of_lt before))

/-- After as many steps as there are stages no cell decays, if no live cell began to. -/
theorem le_alive_of_calm (sound : Sound width height c b) {n : ℕ} (long : c.maxState - 1 ≤ n)
    (calm : ∀ k < n, (stepN k b).Calm) : (stepN n b).Everywhere (· ≤ Cell.alive) := by
  intro (state : ℕ) mem
  have last : state ≤ c.maxState := (sound.stepN n).cells_le state mem
  have since : 2 ≤ state → n + 2 ≤ state := decaysSince_stepN sound n calm state mem
  change state ≤ 1
  omega

end Board

end LargerThanLife
