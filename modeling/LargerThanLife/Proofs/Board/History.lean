import LargerThanLife.Proofs.Board.Invariant
import LargerThanLife.Proofs.Board.Observation

/-! A board has no memory of its history beyond what can be seen of it. Its scratch room does hold old
generations, which neither a reset nor a fill removes; but a step overwrites all of it before it
becomes the grid. So boards that differ in the scratch room only can never be told apart. -/

namespace LargerThanLife.Board

variable {b b' : Board}

/-- The boards differ at most in what their scratch rooms of one size hold. -/
def Twin (b b' : Board) : Prop :=
  ∃ room : Array Cell, room.size = b.scratch.size ∧ b' = { b with scratch := room }

/-- What can be seen of the two boards is the same. -/
structure SameView (b b' : Board) : Prop where
  width_eq : b.width = b'.width
  height_eq : b.height = b'.height
  configuration_eq : b.configuration = b'.configuration
  cells_eq : b.cells = b'.cells
  generation_eq : b.generation = b'.generation

theorem twin_of_sameView (reach : b.Reachable) (reach' : b'.Reachable) (same : SameView b b') :
    Twin b b' := by
  have sound := reach.sound
  have sound' := reach'.sound
  -- the offsets follow from the ruleset and the size of the room from that of the grid
  have offsets_eq : b.offsets = b'.offsets := by
    rw [sound.offsets_eq, sound'.offsets_eq, same.configuration_eq]
  have size_eq : b'.scratch.size = b.scratch.size := by
    rw [sound.size_scratch, sound'.size_scratch, same.width_eq, same.height_eq]
  have clock_eq : b.clock = b'.clock := UInt64.toNat_inj.mp same.generation_eq
  refine ⟨b'.scratch, size_eq, ?_⟩
  obtain ⟨width, height, c, offsets, cells, scratch, clock⟩ := b
  obtain ⟨width', height', c', offsets', cells', scratch', clock'⟩ := b'
  obtain ⟨rfl, rfl, rfl, rfl, -⟩ := same
  obtain rfl := offsets_eq
  obtain rfl := clock_eq
  rfl

/-- The new grid is written cell by cell into the scratch room, whatever that held. -/
theorem step_eq_of_twin (twin : Twin b b') : b'.step = b.step := by
  obtain ⟨room, size, rfl⟩ := twin
  have written : ∀ next : Nat → Cell,
      room.mapIdx (fun i _ => next i) = b.scratch.mapIdx fun i _ => next i := by
    intro next
    apply Array.ext
    · simp [size]
    · intro i _ _
      simp
  simp only [step]
  rw [← written]
  rfl

theorem twin_refl (b : Board) : Twin b b := ⟨b.scratch, rfl, rfl⟩

theorem twin_stepN (twin : Twin b b') (n : Nat) : Twin (stepN n b) (stepN n b') := by
  cases n with
  | zero => exact twin
  | succ n =>
    rw [stepN, stepN, step_eq_of_twin twin]
    exact twin_refl _

theorem apply_matches_of_twin (twin : Twin b b') (op : Operation) :
    Matches Eq Twin (b.apply op) (b'.apply op) := by
  have kept := twin
  obtain ⟨room, size, rfl⟩ := twin
  have changed : ∀ x y f, Matches Eq Twin (b.change x y f)
      (change { b with scratch := room } x y f) := by
    intro x y f
    refine (Matches.refl (b.index x y)).map ?_
    rintro i _ rfl
    exact ⟨room, size, rfl⟩
  cases op with
  | set x y state =>
    refine (Matches.refl (b.index x y)).bind ?_
    rintro i _ rfl
    exact .ite (fun _ => .ok ⟨room, size, rfl⟩) fun _ => .error rfl
  | raise x y => exact changed x y _
  | kill x y => exact changed x y _
  | step =>
    refine .ok ?_
    rw [step_eq_of_twin kept]
    exact twin_refl _
  | stepN n => exact .ok (twin_stepN kept n)
  | fill g => exact .ok ⟨room, size, rfl⟩
  | reset => exact .ok ⟨room, size, rfl⟩

theorem ask_eq_of_twin (twin : Twin b b') (query : Query) : b.ask query = b'.ask query := by
  obtain ⟨room, -, rfl⟩ := twin
  cases query <;> rfl

theorem indistinguishable_of_twin (twin : Twin b b') : Indistinguishable b b' := by
  refine indistinguishable_of_relation (fun _ _ => apply_matches_of_twin)
    (fun _ _ => ask_eq_of_twin) ?_ ?_ twin
  · rintro b _ ⟨_, -, rfl⟩
    rfl
  · rintro b _ ⟨_, -, rfl⟩
    rfl

theorem sameView_reset (sound : Sound b.width b.height b.configuration b) :
    SameView b.reset (blank b.width b.height b.configuration) where
  width_eq := rfl
  height_eq := rfl
  configuration_eq := rfl
  cells_eq := by
    simp only [reset, blank, Array.map_const', sound.size_cells]
  generation_eq := rfl

/-- Boards that look the same cannot be told apart by anything that is done with them later, whatever
events led to each; in particular a board that was reset is as good as a new one. -/
theorem history_forgotten :
    (∀ b b' : Board, b.Reachable → b'.Reachable → SameView b b' → Indistinguishable b b') ∧
      ∀ b : Board, b.Reachable →
        (∃ memory fresh, create memory b.width b.height b.configuration = .ok fresh) ∧
          ∀ memory fresh, create memory b.width b.height b.configuration = .ok fresh →
            Indistinguishable b.reset fresh := by
  have alike : ∀ b b' : Board, b.Reachable → b'.Reachable → SameView b b' →
      Indistinguishable b b' := by
    intro b b' reach reach' same
    exact indistinguishable_of_twin (twin_of_sameView reach reach' same)
  refine ⟨alike, fun b reach => ⟨reach.exists_create, fun memory fresh made => ?_⟩⟩
  have new := reachable_of_create made
  obtain ⟨-, rfl⟩ := create_eq_ok_iff.mp made
  exact alike _ _ (reach.after .reset) new (sameView_reset reach.sound)

/-- The board `corner` after a reset that left an old generation in the scratch room. -/
def weathered : Board :=
  (blank 3 2 .decaying).run ([.raise 0 0, .step, .reset] ++ Operation.edits)

theorem history_forgotten_weathered :
    weathered.scratch ≠ corner.scratch ∧ Indistinguishable weathered corner ∧
      create .usual 3 2 .decaying = .ok (blank 3 2 .decaying) ∧
      Indistinguishable weathered.reset (blank 3 2 .decaying) := by
  have reach : weathered.Reachable :=
    ⟨.usual, 3, 2, .decaying, blank 3 2 .decaying, _, rfl, rfl⟩
  have same : SameView weathered corner := ⟨rfl, rfl, rfl, by decide +kernel, rfl⟩
  have made : create .usual 3 2 .decaying = .ok (blank 3 2 .decaying) := rfl
  obtain ⟨forgotten, renewed⟩ := history_forgotten
  exact ⟨by decide, forgotten _ _ reach reachable_corner same, made, (renewed _ reach).2 _ _ made⟩

end LargerThanLife.Board
