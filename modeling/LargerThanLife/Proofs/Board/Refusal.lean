import LargerThanLife.Proofs.Board.Edits

/-! Refused calls. Calls about one cell are written down here as they are carried out, on a board in
place: one thing after another is looked at, a cell may be written, and a fault ends the call and
undoes nothing of what was written before it. This is the same as what a board does that is left alone
when it refuses an operation, since every call writes after the last thing that it looks at. -/

namespace LargerThanLife

/-- A computation on a board in place. -/
abbrev InPlace (α : Type) := ExceptT Fault (StateM Board) α

namespace InPlace

def index (x y : ℕ) : InPlace ℕ := do
  let b ← get
  if b.width ≤ x ∨ b.height ≤ y then throw (.outOfBounds x y b.width b.height)
  else return y * b.width + x

def read (i : ℕ) : InPlace Cell := return (← get).cells.getD i 0

def write (i : ℕ) (state : Cell) : InPlace Unit :=
  modify fun b => { b with cells := b.cells.setIfInBounds i state }

variable {α : Type}

theorem run_index (b : Board) (x y : ℕ) : (index x y).run.run b = (b.index x y, b) := by
  change (if b.width ≤ x ∨ b.height ≤ y then throw (.outOfBounds x y b.width b.height)
    else return y * b.width + x : InPlace ℕ).run.run b = _
  by_cases off : b.width ≤ x ∨ b.height ≤ y
  · rw [if_pos off, Board.index_of_not_mem (by omega)]
    rfl
  · rw [if_neg off, Board.index_of_mem (by omega)]
    rfl

/-- After an index that is refused nothing is done. -/
theorem run_index_bind (b : Board) (x y : ℕ) (next : ℕ → InPlace α) :
    (index x y >>= next).run.run b =
      match b.index x y with
      | .ok i => (next i).run.run b
      | .error fault => (.error fault, b) := by
  have first := run_index b x y
  rw [ExceptT.run_bind, StateT.run_bind, first]
  cases b.index x y <;> rfl

@[simp] theorem run_get_bind (b : Board) (next : Board → InPlace α) :
    (get >>= next).run.run b = (next b).run.run b := rfl

@[simp] theorem run_read_bind (b : Board) (i : ℕ) (next : Cell → InPlace α) :
    (read i >>= next).run.run b = (next (b.stateAt i)).run.run b := rfl

end InPlace

inductive Call where
  | look (x y : ℕ)
  | count (x y : ℕ)
  | edit (e : Edit)

namespace Call

def place : Call → ℕ × ℕ
  | look x y => (x, y)
  | count x y => (x, y)
  | edit e => e.place

def event : Call → Event
  | look x y => .ask (.cell x y)
  | count x y => .ask (.liveNeighbours x y)
  | edit e => .operate e.operation

/-- How a call is carried out. -/
def program : Call → InPlace (Option Answer)
  | look x y => do
    let i ← InPlace.index x y
    return some (.number (← InPlace.read i))
  | count x y => do
    let _ ← InPlace.index x y
    return some (.number ((← get).countLive x y))
  | edit (.set x y state) => do
    let i ← InPlace.index x y
    let limit := (← get).configuration.maxState
    if limit < state then throw (.invalidState state limit)
    InPlace.write i state
    return none
  | edit (.raise x y) => do
    let i ← InPlace.index x y
    if (← InPlace.read i) = 0 then InPlace.write i 1
    return none
  | edit (.kill x y) => do
    let i ← InPlace.index x y
    InPlace.write i 0
    return none

/-- What is wrong with a call: its coordinates, whatever else there is, or else its state. -/
@[mk_iff]
inductive Refused (b : Board) : Call → Fault → Prop
  | place {call : Call} : b.width ≤ call.place.1 ∨ b.height ≤ call.place.2 →
    Refused b call (.outOfBounds call.place.1 call.place.2 b.width b.height)
  | state {x y : ℕ} {state : Cell} : x < b.width → y < b.height → max b.configuration.depth 1 < state →
    Refused b (.edit (.set x y state)) (.invalidState state (max b.configuration.depth 1))

end Call

namespace Board

theorem setIfInBounds_eq_changeAt (b : Board) (i : ℕ) (f : Cell → Cell) :
    { b with cells := b.cells.setIfInBounds i (f (b.stateAt i)) } = b.changeAt i f := by
  have cells : b.cells.setIfInBounds i (f (b.stateAt i)) = b.cells.modify i f := by
    apply Array.ext_getElem?
    intro j
    rw [Array.getElem?_setIfInBounds, Array.getElem?_modify]
    split
    · next same =>
      subst same
      by_cases inside : i < b.cells.size
      · simp [inside, stateAt]
      · simp [inside]
    · rfl
  rw [cells, changeAt]

theorem changeAt_eq_self {b : Board} {i : ℕ} {f : Cell → Cell} (kept : f (b.stateAt i) = b.stateAt i) :
    b.changeAt i f = b := by
  have cells : b.cells.setIfInBounds i (b.stateAt i) = b.cells := by
    by_cases inside : i < b.cells.size
    · rw [stateAt, Array.getD_eq_getD_getElem?, Array.getElem?_eq_getElem inside, Option.getD_some,
        Array.setIfInBounds, dif_pos inside, Array.set_getElem_self]
    · exact Array.setIfInBounds_eq_of_size_le (Nat.le_of_not_lt inside)
  rw [← setIfInBounds_eq_changeAt, kept, cells]

/-- An edit writes once and last, so it does in place what the operation does at once. -/
theorem program_run_edit (b : Board) (e : Edit) : (Call.edit e).program.run.run b =
    (b.reply (.operate e.operation), b.afterEvent (.operate e.operation)) := by
  cases e with
  | set x y state =>
    rw [Call.program, InPlace.run_index_bind]
    simp only [Edit.operation, reply, afterEvent, after, apply, set]
    cases b.index x y with
    | error fault => rfl
    | ok i =>
      simp only [ok_bind, InPlace.run_get_bind]
      by_cases fits : state ≤ b.configuration.maxState
      · rw [if_pos fits, if_neg (Nat.not_lt.mpr fits), ← setIfInBounds_eq_changeAt b i]
        rfl
      · rw [if_neg fits, if_pos (Nat.lt_of_not_le fits)]
        rfl
  | raise x y =>
    rw [Call.program, InPlace.run_index_bind]
    simp only [Edit.operation, reply, afterEvent, after, apply, raise, change]
    cases b.index x y with
    | error fault => rfl
    | ok i =>
      simp only [ok_bind, InPlace.run_read_bind]
      by_cases dead : b.stateAt i = 0
      · rw [if_pos dead, ← setIfInBounds_eq_changeAt b i, if_pos dead]
        rfl
      · have kept := changeAt_eq_self (f := fun state => if state = 0 then 1 else state) (if_neg dead)
        rw [if_neg dead, kept]
        rfl
  | kill x y =>
    rw [Call.program, InPlace.run_index_bind]
    simp only [Edit.operation, reply, afterEvent, after, apply, kill, change]
    cases b.index x y with
    | error fault => rfl
    | ok i =>
      rw [ok_bind, ← setIfInBounds_eq_changeAt b i]
      rfl

theorem program_run (b : Board) (call : Call) :
    call.program.run.run b = (b.reply call.event, b.afterEvent call.event) := by
  cases call with
  | look x y =>
    rw [Call.program, InPlace.run_index_bind]
    simp only [Call.event, reply, ask, get, afterEvent]
    cases b.index x y <;> rfl
  | count x y =>
    rw [Call.program, InPlace.run_index_bind]
    simp only [Call.event, reply, ask, liveNeighbours, afterEvent]
    cases b.index x y <;> rfl
  | edit e => exact program_run_edit b e

theorem index_eq_error_iff {b : Board} {x y : ℕ} {fault : Fault} : b.index x y = .error fault ↔
    (b.width ≤ x ∨ b.height ≤ y) ∧ fault = .outOfBounds x y b.width b.height := by
  by_cases on : x < b.width ∧ y < b.height
  · have inside : ¬(b.width ≤ x ∨ b.height ≤ y) := by omega
    simp [on, inside]
  · have outside : b.width ≤ x ∨ b.height ≤ y := by omega
    simp [on, outside, eq_comm]

/-- The coordinates of a new state are looked at before the state. -/
theorem permit_set_eq_error_iff {b : Board} {x y : ℕ} {state : Cell} {fault : Fault} :
    b.permit (.set x y state) = .error fault ↔
      ((b.width ≤ x ∨ b.height ≤ y) ∧ fault = .outOfBounds x y b.width b.height) ∨
        (x < b.width ∧ y < b.height) ∧ b.configuration.maxState < state ∧
          fault = .invalidState state b.configuration.maxState := by
  rw [← index_eq_error_iff, permit]
  by_cases on : x < b.width ∧ y < b.height
  · by_cases fits : state ≤ b.configuration.maxState
    · simp [Edit.place, on, fits, Nat.not_lt.mpr fits]
    · simp [Edit.place, on, fits, Nat.lt_of_not_le fits, eq_comm]
  · simp [Edit.place, on]

theorem reply_eq_error_iff (b : Board) (call : Call) (fault : Fault) :
    b.reply call.event = .error fault ↔ call.Refused b fault := by
  rw [Call.refused_iff]
  cases call with
  | look x y =>
    simp [Call.event, reply, ask, get, index_eq_error_iff, Call.place]
  | count x y =>
    simp [Call.event, reply, ask, liveNeighbours, index_eq_error_iff, Call.place]
  | edit e =>
    rw [Call.event, reply_operation, map_eq_error_iff]
    cases e with
    | set x y state =>
      rw [permit_set_eq_error_iff, Configuration.maxState]
      simp [Call.place, Edit.place, and_assoc]
    | raise x y => simp [permit, index_eq_error_iff, Edit.place, Call.place]
    | kill x y => simp [permit, index_eq_error_iff, Edit.place, Call.place]

theorem afterEvent_of_error {b : Board} {call : Call} {fault : Fault}
    (refused : b.reply call.event = .error fault) : b.afterEvent call.event = b := by
  cases call with
  | look x y => rfl
  | count x y => rfl
  | edit e =>
    rw [Call.event, reply_operation, map_eq_error_iff] at refused
    rw [Call.event, afterEvent, after_operation, refused]
    rfl

/-- A call about one cell, carried out in place, does what the operation or question does; it is
refused exactly for coordinates off the board or else for a state above the last one of the ruleset,
with the fault that says so; and then all of the board is as it was, so whatever comes later is as if
the call had not been made. -/
theorem refused_exactly (b : Board) (call : Call) :
    call.program.run.run b = (b.reply call.event, b.afterEvent call.event) ∧
      ∀ fault, (b.reply call.event = .error fault ↔ call.Refused b fault) ∧
        (call.Refused b fault → b.afterEvent call.event = b ∧
          ∀ events, (b.afterEvent call.event).replies events = b.replies events ∧
            (b.afterEvent call.event).afterEvents events = b.afterEvents events) := by
  refine ⟨program_run b call, fun fault => ⟨reply_eq_error_iff b call fault, fun refused => ?_⟩⟩
  have kept := afterEvent_of_error ((reply_eq_error_iff b call fault).mpr refused)
  rw [kept]
  exact ⟨rfl, fun events => ⟨rfl, rfl⟩⟩

/-- A coordinate past the end of a row, where the index is that of a cell in the next one, and a state
past the last stage of decay. -/
theorem refused_exactly_corner :
    corner.reply (.ask (.cell 3 0)) = .error (.outOfBounds 3 0 3 2) ∧
      corner.reply (.operate (.set 3 0 9)) = .error (.outOfBounds 3 0 3 2) ∧
      corner.reply (.operate (.set 0 0 4)) = .error (.invalidState 4 3) ∧
      corner.after (.set 0 0 4) = corner := by
  have past : (Call.look 3 0).Refused corner (.outOfBounds 3 0 3 2) := .place (by decide)
  have both : (Call.edit (.set 3 0 9)).Refused corner (.outOfBounds 3 0 3 2) := .place (by decide)
  have decayed : (Call.edit (.set 0 0 4)).Refused corner (.invalidState 4 3) :=
    .state (by decide) (by decide) (by decide)
  obtain ⟨-, set_refused⟩ := refused_exactly corner (.edit (.set 0 0 4))
  exact ⟨((refused_exactly corner (.look 3 0)).2 _).1.mpr past,
    ((refused_exactly corner (.edit (.set 3 0 9))).2 _).1.mpr both, (set_refused _).1.mpr decayed,
    ((set_refused _).2 decayed).1⟩

end Board

end LargerThanLife
