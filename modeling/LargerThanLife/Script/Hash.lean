import LargerThanLife.Script.Value

/-! Hashes of values. A number is hashed to its remainder by the prime `2 ^ 61 - 1`, with its own
sign, and a quotient by powers of two is taken in the field of that prime, where `2 ^ 61` is one. A
tuple mixes the hashes of its items in order. Minus one is no hash. -/

namespace LargerThanLife.Script

namespace Hash

/-- The hash of `n / q`, where `q` is a power of two. -/
def ofRatio (n : Int) (q : Nat) : Int :=
  let rest : Int := (n.natAbs <<< (61 - q.log2 % 61) % (1 <<< 61 - 1) : Nat)
  let signed := if n < 0 then -rest else rest
  if signed = -1 then -2 else signed

/-- The hash of no items, before their number is mixed in. -/
def seed : UInt64 := 2870177450012600261

def mix (acc : UInt64) (item : Int) : UInt64 :=
  let sum := acc + UInt64.ofInt item * 14029467366897019727
  (sum <<< 31 ||| sum >>> 33) * 11400714785074694791

/-- The hash of a tuple of so many items, which have been mixed. -/
def finish (acc : UInt64) (count : Nat) : Int :=
  let sum := acc + (count.toUInt64 ^^^ (seed ^^^ 3527539))
  let signed := sum.toInt64.toInt
  if signed = -1 then 1546275796 else signed

end Hash

mutual

/-- The hash of a value. Shapes are numbered; what cannot be a key has no hash, and a text, a board
and the value nothing have none that could be told in advance. -/
def Value.hash : Value → Option Int
  | .shape .moore => some 0
  | .shape .vonNeumann => some 1
  | .tuple items => (hashItems Hash.seed items).map fun acc => Hash.finish acc items.length
  | v => v.ratio?.map fun (n, q) => Hash.ofRatio n q

def Value.hashItems (acc : UInt64) : List Value → Option UInt64
  | [] => some acc
  | item :: rest =>
    match item.hash with
    | some h => hashItems (Hash.mix acc h) rest
    | none => none

end

end LargerThanLife.Script
