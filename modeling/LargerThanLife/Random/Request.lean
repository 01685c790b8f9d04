import LargerThanLife.Random.Ruleset

/-! Requests to a generator and their answers, so that a sequence of draws from one generator can be
given as data. A request that has no answer, such as one for an integer from an empty range, is
refused and draws nothing. -/

namespace LargerThanLife.Random

open Number

inductive Request where
  /-- an integer from `low` to `high`, or to the one before `high` -/
  | integer (kind : IntKind) (low high : Int) (inclusive : Bool)
  /-- a coin with a given probability; none stands for what is not a finite number -/
  | coin (probability : Option Binary64)
  | shape
  | ruleset
  /-- the seed that the generator was made from -/
  | seed

inductive Answer where
  | integer (n : Int)
  | boolean (b : Bool)
  | shape (s : Shape)
  | ruleset (c : Configuration)
  | seed (n : UInt64)
  | refused

/-- The outcome of a draw, or a refusal if the draw never comes to an end. -/
def settle {α : Type} (wrap : α → Answer) (draw : Draw α) (g : Generator) : Answer × Generator :=
  match draw g with
  | some (a, g) => (wrap a, g)
  | none => (.refused, g)

def Request.answer (request : Request) (g : Generator) : Answer × Generator :=
  match request with
  | integer kind low high inclusive =>
    let high := if inclusive then high else high - 1
    if h : low ≤ high ∧ kind.min ≤ low ∧ high ≤ kind.max then
      settle (fun v => .integer v.val) (drawBetween kind low high h.1 h.2.1 h.2.2) g
    else (.refused, g)
  | coin probability =>
    match probability.bind Chance.ofBinary64? with
    | some chance => let (b, g) := toss chance g; (.boolean b, g)
    | none => (.refused, g)
  | shape => settle .shape Shape.draw g
  | ruleset => settle .ruleset Configuration.draw g
  | seed => (.seed g.seed, g)

def answers : List Request → Generator → List Answer
  | [], _ => []
  | request :: rest, g =>
    let (a, g) := request.answer g
    a :: answers rest g

end LargerThanLife.Random
