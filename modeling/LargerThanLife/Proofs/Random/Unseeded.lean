import LargerThanLife.Proofs.Board.Invariant
import LargerThanLife.Proofs.Record.Validity
import LargerThanLife.Random.Unseeded

/-! What holds of draws without a given seed, whatever the supply of seeds gives. A ruleset that is drawn
is valid as a record, since every ruleset is; a generator keeps its seed, so it is made again from it;
and a fill leaves dead and live cells only. -/

namespace LargerThanLife

variable (seed : UInt64)

@[simp] theorem Configuration.isRestored_eq_true (c : Configuration) : c.isRestored = true := by
  simp [isRestored, Record.validate_ofConfiguration]

theorem Configuration.survivesStorage_eq_true : survivesStorage seed = true :=
  (Option.all_eq_true isRestored (ofSeed seed)).mpr fun c _ => c.isRestored_eq_true

/-- All rulesets of a supply survive storage, however many are drawn. -/
theorem Configuration.all_survivesStorage (supply : SeedSupply) (count : Nat) :
    (supply.take count).all survivesStorage = true :=
  List.all_eq_true.mpr fun seed _ => survivesStorage_eq_true seed

theorem Generator.replays_eq_true (count : Nat) : replays count seed = true := decide_eq_true rfl

theorem Board.isBinary_iff {b : Board} : b.isBinary = true ↔ b.Everywhere (· ≤ Cell.alive) := by
  simp only [isBinary, Everywhere, Array.all_eq_true', decide_eq_true_eq]

theorem Board.isBinary_randomize (b : Board) : (b.randomize seed).isBinary = true :=
  isBinary_iff.mpr (everywhere_fill b (.ofSeed seed))

end LargerThanLife
