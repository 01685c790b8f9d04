import LargerThanLife.Number.Decimal

/-! The shortest decimal that reads back as a given magnitude. The reals that round to a magnitude
form an interval around it, whose ends belong to it when the significand is even. Among the grids of
multiples of a power of ten the coarsest one that meets the interval is taken, and on it the point
closest to the magnitude. -/

namespace LargerThanLife.Number

namespace Magnitude

/-- Half the distance to the next smaller magnitude, in quarters of the unit of `x`. It is halved
just above a power of two. -/
def lowerGap (x : Magnitude) : Nat :=
  if x.significand = 1 <<< 52 && minExponent < x.exponent then 1 else 2

/-- The multiple of `10 ^ k` next to `x` that rounds to `x`, as its factor, if there is one; of two
the closer, and the even one if they are equally close. -/
def onGrid (x : Magnitude) (k : Int) : Option Nat :=
  let scale := powerOfTen (-k).toNat <<< (x.exponent - 2).toNat
  let unit := powerOfTen k.toNat <<< (2 - x.exponent).toNat
  let value := 4 * x.significand * scale
  let low := (4 * x.significand - x.lowerGap) * scale
  let high := (4 * x.significand + 2) * scale
  let closed := x.significand % 2 = 0
  let inside (n : Nat) : Bool :=
    if closed then low ≤ n * unit && n * unit ≤ high else low < n * unit && n * unit < high
  let below := value / unit
  match inside below, inside (below + 1) with
  | true, true => some (roundHalfEven value unit)
  | true, false => some below
  | false, true => some (below + 1)
  | false, false => none

/-- Goes down from the grid of `10 ^ k` until one has a point that rounds to `x`. -/
def coarsest (x : Magnitude) : Nat → Int → Nat × Int
  | 0, k => (0, k)
  | steps + 1, k =>
    match x.onGrid k with
    | some n => (n, k)
    | none => coarsest x steps (k - 1)

/-- The digits and the power of ten of the shortest decimal that rounds to a positive `x`. Every
magnitude is a multiple of `10 ^ minExponent` and less than `10 ^ 309`, so a grid is found. -/
def shortest (x : Magnitude) : Nat × Int := coarsest x 1384 309

end Magnitude

/-- How numbers are laid out: which powers of ten are written without an exponent, and how many
digits an exponent has at least. -/
structure Layout where
  lowest : Int
  highest : Int
  exponentWidth : Nat

namespace Layout

def zeros (n : Nat) : List Char := List.replicate n '0'

/-- A number written without an exponent, with at least one digit on either side of the point. -/
def positional (digits : List Char) (k : Int) : List Char :=
  if 0 ≤ k then digits ++ zeros k.toNat ++ ['.', '0']
  else
    let padded := zeros ((-k).toNat + 1 - digits.length) ++ digits
    let whole := padded.length - (-k).toNat
    padded.take whole ++ '.' :: padded.drop whole

/-- An exponent with its sign, filled up with zeros. -/
def exponent (layout : Layout) (e : Int) : List Char :=
  let digits := Text.Numeral.write e.natAbs
  (if e < 0 then '-' else '+') :: zeros (layout.exponentWidth - digits.length) ++ digits

/-- A number written with one digit before the point and an exponent; no point without digits
after it. -/
def scientific (layout : Layout) (digits : List Char) (e : Int) : List Char :=
  digits.take 1 ++ (if digits.length = 1 then [] else '.' :: digits.drop 1) ++
    'e' :: layout.exponent e

/-- A floating-point number with the fewest digits that read back. -/
def write (layout : Layout) (x : Binary64) : List Char :=
  let sign := if x.negative then ['-'] else []
  if x.magnitude.significand = 0 then sign ++ ['0', '.', '0']
  else
    let (n, k) := x.magnitude.shortest
    let digits := Text.Numeral.write n
    let e := k + digits.length - 1
    sign ++
      if layout.lowest ≤ e && e ≤ layout.highest then positional digits k
      else layout.scientific digits e

end Layout

end LargerThanLife.Number
