import LargerThanLife.Proofs.Board.Generation

/-! Pictures on boards. An edit changes the cell that it is addressed to and no other one. So a board
can be brought to hold any picture, that is, any states that the ruleset has: what is true of every
board that events lead to is true of every picture. -/

namespace LargerThanLife

/-- Edits that put the listed cells, one after another, into their states in a picture. -/
def Operation.paint (picture : ℕ × ℕ → Cell) (cells : List (ℕ × ℕ)) : List Operation :=
  cells.map fun p => .set p.1 p.2 (picture p)

namespace Board

variable {width height : ℕ} {c : Configuration} {b : Board} {m n m' n' : ℕ}

theorem index_eq_iff (on : m < b.width ∧ n < b.height) (on' : m' < b.width ∧ n' < b.height) :
    n * b.width + m = n' * b.width + m' ↔ (m, n) = (m', n') := by
  constructor
  · intro same
    obtain ⟨column, row⟩ := column_row_of_index on
    obtain ⟨column', row'⟩ := column_row_of_index on'
    rw [same, column'] at column
    rw [same, row'] at row
    rw [column, row]
  · rintro ⟨rfl, rfl⟩
    rfl

/-- A change at the index of a cell is a change of that cell only. -/
theorem get_changeAt (sound : Sound width height c b) (f : Cell → Cell)
    (on : m < b.width ∧ n < b.height) (on' : m' < b.width ∧ n' < b.height) :
    (b.changeAt (n * b.width + m) f).get m' n' =
      if (m, n) = (m', n') then f <$> b.get m' n' else b.get m' n' := by
  have inside := sound.index_lt_size on'
  rw [get_of_mem (b := b.changeAt _ _) on', get_of_mem on']
  simp only [stateAt, changeAt, ← index_eq_iff on on', Array.getD_eq_getD_getElem?,
    Array.getElem?_modify, Array.getElem?_eq_getElem inside]
  split <;> rfl

theorem after_set (on : m < b.width ∧ n < b.height) {state : Cell}
    (fits : state ≤ b.configuration.maxState) :
    b.after (.set m n state) = b.changeAt (n * b.width + m) fun _ => state := by
  simp only [after, apply, set_eq_ok_iff.mpr ⟨on, fits, rfl⟩]

theorem get_run_paint (sound : Sound width height c b) (picture : ℕ × ℕ → Cell)
    (cells : List (ℕ × ℕ))
    (fits : ∀ p ∈ cells, (p.1 < width ∧ p.2 < height) ∧ picture p ≤ c.maxState)
    (on : m < width ∧ n < height) :
    (b.run (Operation.paint picture cells)).get m n =
      if (m, n) ∈ cells then .ok (picture (m, n)) else b.get m n := by
  induction cells generalizing b with
  | nil => rfl
  | cons p cells ih =>
    obtain ⟨⟨place, le⟩, rest⟩ := List.forall_mem_cons.mp fits
    obtain rfl := sound.width_eq
    obtain rfl := sound.height_eq
    obtain rfl := sound.configuration_eq
    have edited := after_set place le
    have later := ih (sound.after (.set p.1 p.2 (picture p))) rest
    rw [edited, get_changeAt sound _ place on, get_of_mem on] at later
    rw [Operation.paint, List.map_cons, run, List.foldl_cons, edited]
    refine later.trans ?_
    -- a cell in the rest of the list is painted there, whatever this edit did
    by_cases listed : (m, n) ∈ cells
    · rw [if_pos listed, if_pos (List.mem_cons_of_mem _ listed)]
    · by_cases here : p = (m, n)
      · rw [if_neg listed, if_pos here, if_pos (here ▸ List.mem_cons_self), here]
        rfl
      · have other : (m, n) ∉ p :: cells := by
          rw [List.mem_cons, not_or]
          exact ⟨fun same => here same.symm, listed⟩
        rw [if_neg listed, if_neg here, if_neg other, get_of_mem on]

/-- Every picture is on some board that events lead to. -/
theorem exists_reachable_get_eq (area_pos : 0 < width * height) (area_lt : width * height < 1 <<< 63)
    (picture : ℕ × ℕ → Cell)
    (fits : ∀ m < width, ∀ n < height, picture (m, n) ≤ c.maxState) :
    ∃ b : Board, b.Reachable ∧ Sound width height c b ∧
      ∀ m < width, ∀ n < height, b.get m n = .ok (picture (m, n)) := by
  have sound : Sound width height c (blank width height c) := .blank area_pos area_lt
  obtain ⟨memory, made⟩ := exists_create c area_pos area_lt
  let cells := List.range width ×ˢ List.range height
  have listed (m n : ℕ) : (m, n) ∈ cells ↔ m < width ∧ n < height :=
    List.pair_mem_product.trans (and_congr List.mem_range List.mem_range)
  refine ⟨(blank width height c).run (Operation.paint picture cells),
    ⟨memory, width, height, c, _, _, made, rfl⟩, sound.run _, ?_⟩
  intro m hm n hn
  have painted := get_run_paint sound picture cells (m := m) (n := n) ?_ ⟨hm, hn⟩
  · rwa [if_pos ((listed m n).mpr ⟨hm, hn⟩)] at painted
  · rintro ⟨m, n⟩ mem
    obtain ⟨hm, hn⟩ := (listed m n).mp mem
    exact ⟨⟨hm, hn⟩, fits m hm n hn⟩

end Board

end LargerThanLife
