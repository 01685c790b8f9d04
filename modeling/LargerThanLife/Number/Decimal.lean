import LargerThanLife.Number.Binary64
import LargerThanLife.Text.Numeral

/-! Decimal numbers with a fraction and an exponent, read exactly. A text such as `-12.5e-3` is a
sign, a natural number and a power of ten; `toBinary64?` rounds it once, to the nearest
floating-point number. -/

namespace LargerThanLife.Number

open Text

/-- The number `digits * 10 ^ exponent` with a sign. -/
structure Decimal where
  negative : Bool
  digits : Nat
  exponent : Int
  deriving DecidableEq, Repr

namespace Decimal

/-- A sign and the text after it; no sign means plus. -/
def readSign : List Char → Bool × List Char
  | '-' :: rest => (true, rest)
  | '+' :: rest => (false, rest)
  | rest => (false, rest)

/-- The power of ten after the letter `e`, which ends the text; an empty text stands for none. -/
def readExponent : List Char → Option Int
  | [] => some 0
  | c :: rest =>
    if c = 'e' || c = 'E' then
      let (negative, digits) := readSign rest
      (Numeral.readDigits digits).map fun n => if negative then -(n : Int) else n
    else none

/-- The decimal number that a text stands for: an optional sign, digits with at most one point
among them, and an optional power of ten. -/
def read (s : List Char) : Option Decimal := do
  let (negative, s) := readSign s
  let (whole, rest) := s.span Char.isDigit
  let (fraction, rest) := match rest with
    | '.' :: rest => rest.span Char.isDigit
    | rest => ([], rest)
  let digits ← Numeral.readDigits (whole ++ fraction)
  let exponent ← readExponent rest
  return ⟨negative, digits, exponent - fraction.length⟩

/-- A bound for the size of a decimal number, which is less than `10 ^ d.size` and, unless it is
zero, at least a tenth of that. -/
def size (d : Decimal) : Int := d.exponent + (Numeral.write d.digits).length

/-- The floating-point number nearest to a decimal number, if there is one. Below `10 ^ (-330)` all
numbers are rounded to zero, and at `10 ^ 310` they are too great, so the power of ten is computed
only in between. -/
def toBinary64? (d : Decimal) : Option Binary64 :=
  if d.digits = 0 || d.size ≤ -330 then some ⟨d.negative, ⟨0, minExponent⟩⟩
  else if 310 < d.size then none
  else
    (nearest (d.digits * powerOfTen d.exponent.toNat) (powerOfTen (-d.exponent).toNat)).map fun m =>
      ⟨d.negative, m⟩

end Decimal

def Binary64.ofText? (s : String) : Option Binary64 :=
  (Decimal.read s.toList).bind Decimal.toBinary64?

end LargerThanLife.Number
