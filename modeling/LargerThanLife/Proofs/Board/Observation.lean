import LargerThanLife.Board.Operation
import LargerThanLife.Proofs.Outcome

/-! What can be seen of a board from outside: the faults of refused operations and the answers to
questions, in the course of any events, and the cells and the generation at their end. Two boards
are indistinguishable when no course of events shows a difference. To prove it, a relation is enough
that every operation keeps and under which every answer is the same. -/

namespace LargerThanLife

inductive Event where
  | operate (op : Operation)
  | ask (query : Query)
  deriving DecidableEq, Repr

namespace Board

/-- What is told about an event: its fault, or the answer if it is a question. -/
def reply (b : Board) : Event → Except Fault (Option Answer)
  | .operate op => (fun _ => none) <$> b.apply op
  | .ask query => some <$> b.ask query

def afterEvent (b : Board) : Event → Board
  | .operate op => b.after op
  | .ask _ => b

def replies (b : Board) : List Event → List (Except Fault (Option Answer))
  | [] => []
  | event :: rest => b.reply event :: (b.afterEvent event).replies rest

def afterEvents (b : Board) (events : List Event) : Board := events.foldl afterEvent b

/-- Whatever is done with the two boards alike, the same is told about both at every point, and at
the end both have the same cells and the same generation. -/
def Indistinguishable (b b' : Board) : Prop :=
  ∀ events : List Event, b.replies events = b'.replies events ∧
    (b.afterEvents events).cells = (b'.afterEvents events).cells ∧
    (b.afterEvents events).generation = (b'.afterEvents events).generation

section Simulation

variable {R : Board → Board → Prop} {b b' : Board}

theorem reply_eq_of_matches (related : R b b')
    (applied : ∀ op, Matches Eq R (b.apply op) (b'.apply op))
    (asked : ∀ query, b.ask query = b'.ask query) (event : Event) :
    b.reply event = b'.reply event ∧ R (b.afterEvent event) (b'.afterEvent event) := by
  cases event with
  | operate op =>
    refine ⟨((applied op).map fun _ _ _ => rfl).eq, ?_⟩
    have matched := applied op
    simp only [afterEvent, after]
    generalize b.apply op = outcome, b'.apply op = outcome' at matched ⊢
    cases matched with
    | error _ => exact related
    | ok next => exact next
  | ask query => exact ⟨by simp only [reply, asked query], related⟩

/-- Boards in a relation that all operations keep, under which all answers are the same, cannot be
told apart. -/
theorem indistinguishable_of_relation
    (applied : ∀ b b', R b b' → ∀ op, Matches Eq R (b.apply op) (b'.apply op))
    (asked : ∀ b b', R b b' → ∀ query, b.ask query = b'.ask query)
    (cells : ∀ b b', R b b' → b.cells = b'.cells)
    (generation : ∀ b b', R b b' → b.generation = b'.generation)
    (related : R b b') : Indistinguishable b b' := by
  intro events
  induction events generalizing b b' with
  | nil => exact ⟨rfl, cells _ _ related, generation _ _ related⟩
  | cons event rest ih =>
    obtain ⟨told, next⟩ :=
      reply_eq_of_matches related (applied _ _ related) (asked _ _ related) event
    obtain ⟨replies_eq, after_eq⟩ := ih next
    exact ⟨by rw [replies, replies, told, replies_eq], after_eq⟩

end Simulation

end Board

end LargerThanLife
