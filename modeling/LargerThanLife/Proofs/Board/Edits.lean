import LargerThanLife.Proofs.Board.Observation
import LargerThanLife.Proofs.Board.Picture

/-! Edits of single cells in sequence. Whether an edit is accepted depends on its coordinates, its
state and the size and ruleset of the board, so on nothing that an edit changes. So every edit is
judged as if it were the first, and a cell ends up as the accepted edits at its own coordinates leave
it, one after another. What stands at other coordinates may be put in any order. -/

namespace LargerThanLife

inductive Edit where
  | set (x y : ℕ) (state : Cell)
  | raise (x y : ℕ)
  | kill (x y : ℕ)
  deriving DecidableEq, Repr

namespace Edit

def place : Edit → ℕ × ℕ
  | set x y _ => (x, y)
  | raise x y => (x, y)
  | kill x y => (x, y)

/-- What an edit does to the state of its cell. -/
def effect : Edit → Cell → Cell
  | set _ _ state => fun _ => state
  | raise _ _ => fun state => if state = 0 then 1 else state
  | kill _ _ => fun _ => 0

def operation : Edit → Operation
  | set x y state => .set x y state
  | raise x y => .raise x y
  | kill x y => .kill x y

def addressed (p : ℕ × ℕ) (edits : List Edit) : List Edit := edits.filter fun e => e.place = p

/-- The edits of each cell are the same in both lists and stand in the same order. -/
def Reordered (edits reordered : List Edit) : Prop :=
  ∀ p, addressed p reordered = addressed p edits

/-- The state that edits of a cell leave, one after another. -/
def effects (edits : List Edit) (state : Cell) : Cell :=
  edits.foldl (fun state e => e.effect state) state

/-- Neighbouring edits of two cells may change places. -/
theorem reordered_swap (before after : List Edit) {d e : Edit} (apart : d.place ≠ e.place) :
    Reordered (before ++ d :: e :: after) (before ++ e :: d :: after) := by
  intro p
  simp only [addressed, List.filter_append, List.filter_cons, decide_eq_true_eq]
  by_cases here : d.place = p
  · have other : e.place ≠ p := fun same => apart (here.trans same.symm)
    simp only [here, other, if_true, if_false]
  · simp only [here, if_false]

end Edit

namespace Board

/-- The board after edits, some of which may have been refused. -/
def edited (b : Board) (edits : List Edit) : Board := b.run (edits.map Edit.operation)

/-- The edits with what is told about each of them. -/
def told (b : Board) (edits : List Edit) : List (Edit × Except Fault (Option Answer)) :=
  edits.zip (b.replies (edits.map fun e => .operate e.operation))

def accepted (b : Board) (edits : List Edit) : List Edit :=
  ((b.told edits).filter fun t => t.2.isOk).map Prod.fst

/-- What is looked at before an edit is made: first its coordinates, then its state. -/
def permit (b : Board) (e : Edit) : Except Fault Unit := do
  let _ ← b.index e.place.1 e.place.2
  match e with
  | .set _ _ state =>
    if state ≤ b.configuration.maxState then return ()
    else throw (.invalidState state b.configuration.maxState)
  | .raise _ _ => return ()
  | .kill _ _ => return ()

variable {width height m n : ℕ} {c : Configuration} {b b' : Board} {e : Edit}

/-! ### One edit -/

theorem change_eq_map (b : Board) (x y : ℕ) (f : Cell → Cell) :
    b.change x y f = (fun _ => b.changeAt (y * b.width + x) f) <$> b.index x y := by
  by_cases on : x < b.width ∧ y < b.height
  · simp [change, on]
  · simp [change, on]

/-- An edit that is permitted changes the cell that it is addressed to. -/
theorem apply_operation (b : Board) (e : Edit) : b.apply e.operation =
    (fun _ => b.changeAt (e.place.2 * b.width + e.place.1) e.effect) <$> b.permit e := by
  cases e with
  | set x y state =>
    by_cases on : x < b.width ∧ y < b.height
    · simp only [Edit.operation, apply, set, permit, Edit.place, index_of_mem on, ok_bind]
      split <;> rfl
    · simp [Edit.operation, apply, set, permit, Edit.place, on]
  | raise x y =>
    refine (change_eq_map b x y _).trans ?_
    rw [permit, Edit.place]
    cases b.index x y <;> rfl
  | kill x y =>
    refine (change_eq_map b x y _).trans ?_
    rw [permit, Edit.place]
    cases b.index x y <;> rfl

theorem place_of_permit (permitted : b.permit e = .ok ()) :
    e.place.1 < b.width ∧ e.place.2 < b.height := by
  by_contra off
  simp [permit, off] at permitted

/-- Whether an edit is accepted does not depend on the cells. -/
@[simp] theorem permit_changeAt (b : Board) (i : ℕ) (f : Cell → Cell) (e : Edit) :
    (b.changeAt i f).permit e = b.permit e := rfl

theorem after_operation (b : Board) (e : Edit) : b.after e.operation =
    if (b.permit e).isOk then b.changeAt (e.place.2 * b.width + e.place.1) e.effect else b := by
  rw [after, apply_operation]
  cases b.permit e <;> rfl

@[simp] theorem permit_after (b : Board) (d e : Edit) : (b.after d.operation).permit e = b.permit e := by
  rw [after_operation]
  split <;> simp

theorem after_frame (b : Board) (e : Edit) :
    b.after e.operation = { b with cells := (b.after e.operation).cells } := by
  rw [after_operation]
  split <;> rfl

theorem get_after_operation (sound : Sound width height c b) (on : m < b.width ∧ n < b.height) :
    (b.after e.operation).get m n =
      if (b.permit e).isOk ∧ e.place = (m, n) then e.effect <$> b.get m n else b.get m n := by
  rw [after_operation]
  cases permitted : b.permit e with
  | error fault => simp [Except.isOk, Except.toBool]
  | ok =>
    simp only [Except.isOk, Except.toBool, if_true, true_and]
    exact get_changeAt sound e.effect (place_of_permit permitted) on

/-! ### Edits in sequence -/

theorem reply_operation (b : Board) (e : Edit) :
    b.reply (.operate e.operation) = (fun _ => none) <$> b.permit e := by
  simp [reply, apply_operation]

@[simp] theorem reply_after (b : Board) (d e : Edit) :
    (b.after d.operation).reply (.operate e.operation) = b.reply (.operate e.operation) := by
  simp only [reply_operation, permit_after]

/-- About every edit the same is told as if it were the first. -/
theorem told_eq_map (b : Board) (edits : List Edit) :
    b.told edits = edits.map fun e => (e, b.reply (.operate e.operation)) := by
  induction edits generalizing b with
  | nil => rfl
  | cons e edits ih =>
    have rest := ih (b.after e.operation)
    simp only [reply_after] at rest
    rw [List.map_cons, ← rest]
    rfl

theorem accepted_eq_filter (b : Board) (edits : List Edit) :
    b.accepted edits = edits.filter fun e => (b.permit e).isOk := by
  have told (e : Edit) : (b.reply (.operate e.operation)).isOk = (b.permit e).isOk := by
    rw [reply_operation]
    cases b.permit e <;> rfl
  rw [accepted, told_eq_map, List.filter_map, List.map_map]
  simp only [Function.comp_def, told, List.map_id']

/-- Two changes of cells only are together one. -/
theorem frame_trans {b'' : Board} (first : b' = { b with cells := b'.cells })
    (second : b'' = { b' with cells := b''.cells }) : b'' = { b with cells := b''.cells } := by
  rw [first] at second
  exact second

theorem edited_frame (b : Board) (edits : List Edit) :
    b.edited edits = { b with cells := (b.edited edits).cells } := by
  induction edits generalizing b with
  | nil => rfl
  | cons e edits ih => exact frame_trans (after_frame b e) (ih (b.after e.operation))

theorem accepted_cons (b : Board) (e : Edit) (edits : List Edit) : b.accepted (e :: edits) =
    if (b.permit e).isOk then e :: (b.after e.operation).accepted edits
    else (b.after e.operation).accepted edits := by
  simp [accepted_eq_filter, List.filter_cons]

theorem get_edited (sound : Sound width height c b) (on : m < b.width ∧ n < b.height)
    (edits : List Edit) : (b.edited edits).get m n =
      Edit.effects (Edit.addressed (m, n) (b.accepted edits)) <$> b.get m n := by
  -- the board changes from one edit to the next, and what it accepts does not
  induction edits generalizing b with
  | nil =>
    change b.get m n = Edit.effects [] <$> b.get m n
    simp [on, Edit.effects]
  | cons e edits ih =>
    have frame := after_frame b e
    have on' : m < (b.after e.operation).width ∧ n < (b.after e.operation).height := by
      rw [frame]
      exact on
    have later := ih (sound.after e.operation) on'
    rw [get_after_operation sound on] at later
    refine later.trans ?_
    rw [accepted_cons]
    by_cases permitted : (b.permit e).isOk
    · by_cases here : e.place = (m, n)
      · simp [permitted, here, Edit.addressed, Edit.effects, on]
      · simp [permitted, here, Edit.addressed]
    · simp [permitted]

/-- Boards of one size that have the same states everywhere have the same cells. -/
theorem cells_eq_of_get_eq (sound : Sound width height c b) (sound' : Sound width height c b')
    (same : ∀ m < width, ∀ n < height, b.get m n = b'.get m n) : b.cells = b'.cells := by
  apply Array.ext
  · rw [sound.size_cells, sound'.size_cells]
  · intro i bound bound'
    obtain ⟨m, n, on, rfl⟩ := exists_place (sound.size_cells ▸ bound)
    have state := same m on.1 n on.2
    rw [get_of_mem (sound.on_iff.mpr on), get_of_mem (sound'.on_iff.mpr on), sound.width_eq,
      sound'.width_eq, stateAt, stateAt] at state
    simpa [bound, bound'] using state

theorem addressed_accepted (b : Board) (p : ℕ × ℕ) (edits : List Edit) :
    Edit.addressed p (b.accepted edits) =
      (Edit.addressed p edits).filter fun e => (b.permit e).isOk := by
  rw [accepted_eq_filter, Edit.addressed, Edit.addressed, List.filter_comm]

theorem told_addressed (b : Board) (p : ℕ × ℕ) (edits : List Edit) :
    (b.told edits).filter (fun t => t.1.place = p) =
      (Edit.addressed p edits).map fun e => (e, b.reply (.operate e.operation)) := by
  rw [told_eq_map, List.filter_map]
  rfl

theorem edited_eq_of_reordered (sound : Sound width height c b) {reordered : List Edit}
    (same : Edit.Reordered edits reordered) : b.edited reordered = b.edited edits := by
  have cells : (b.edited reordered).cells = (b.edited edits).cells := by
    refine cells_eq_of_get_eq (sound.run _) (sound.run _) fun m hm n hn => ?_
    have on := sound.on_iff.mpr ⟨hm, hn⟩
    have left := get_edited sound on reordered
    have right := get_edited sound on edits
    rw [addressed_accepted, same (m, n), ← addressed_accepted, ← right] at left
    exact left
  rw [edited_frame b reordered, edited_frame b edits, cells]

/-- On a board that some course of events led to, a cell ends up in the state that the accepted edits
at its own coordinates make of the one it had, in order; nothing else than the cells changes, and about
each edit the same is told as if it were the only one. So edits of different cells may be put in any
other order: the board ends up the same and the same is told about each edit. -/
theorem edits_local (reach : b.Reachable) (edits : List Edit) :
    (∀ x < b.width, ∀ y < b.height, ∃ state, b.get x y = .ok state ∧
        (b.edited edits).get x y =
          .ok (Edit.effects (Edit.addressed (x, y) (b.accepted edits)) state)) ∧
      b.edited edits = { b with cells := (b.edited edits).cells } ∧
      (b.edited edits).cells.size = b.cells.size ∧
      b.told edits = (edits.map fun e => (e, b.reply (.operate e.operation))) ∧
      ∀ reordered, Edit.Reordered edits reordered → b.edited reordered = b.edited edits ∧
        ∀ p, (b.told reordered).filter (fun t => t.1.place = p) =
          (b.told edits).filter fun t => t.1.place = p := by
  have sound := reach.sound
  refine ⟨fun x hx y hy => ⟨b.stateAt (y * b.width + x), get_of_mem ⟨hx, hy⟩, ?_⟩, edited_frame b edits,
    ?_, told_eq_map b edits, fun reordered same => ⟨edited_eq_of_reordered sound same, fun p => ?_⟩⟩
  · simp [get_edited sound ⟨hx, hy⟩, hx, hy]
  · exact (sound.run _).size_cells.trans sound.size_cells.symm
  · rw [told_addressed, told_addressed, same p]

/-- Edits of the board `corner`: the first lies off the board, where its index is that of a cell, the
third has a state that the ruleset lacks, and the others are of two cells. -/
def mixedEdits : List Edit := [.set 3 0 1, .raise 2 1, .set 0 0 4, .kill 0 0, .raise 2 1, .raise 0 0]

theorem edits_local_corner :
    corner.Reachable ∧ corner.accepted mixedEdits = [.raise 2 1, .kill 0 0, .raise 2 1, .raise 0 0] ∧
      (corner.edited mixedEdits).get 2 1 = .ok 3 ∧ (corner.edited mixedEdits).get 0 1 = corner.get 0 1 ∧
      corner.edited [.set 3 0 1, .raise 2 1, .set 0 0 4, .raise 2 1, .kill 0 0, .raise 0 0] =
        corner.edited mixedEdits := by
  have accepted : corner.accepted mixedEdits = [.raise 2 1, .kill 0 0, .raise 2 1, .raise 0 0] := by
    decide
  obtain ⟨states, -, -, -, reorder⟩ := edits_local reachable_corner mixedEdits
  have swapped : Edit.Reordered mixedEdits _ :=
    Edit.reordered_swap [.set 3 0 1, .raise 2 1, .set 0 0 4] [.raise 0 0]
      (by decide : (Edit.kill 0 0).place ≠ (Edit.raise 2 1).place)
  obtain ⟨decayed, decayed_before, decayed_after⟩ := states 2 (by decide) 1 (by decide)
  obtain ⟨other, other_before, other_after⟩ := states 0 (by decide) 1 (by decide)
  have before : corner.get 2 1 = .ok 3 := by decide
  have three : 3 = decayed := Except.ok.inj (before.symm.trans decayed_before)
  rw [accepted] at decayed_after other_after
  refine ⟨reachable_corner, accepted, ?_, ?_, (reorder _ swapped).1⟩
  · rw [decayed_after, ← three]
    rfl
  · rw [other_after, other_before]
    rfl

end Board

end LargerThanLife
