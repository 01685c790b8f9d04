import LargerThanLife.Json.Malformation
import LargerThanLife.Number.Decimal

/-! JSON numbers. A numeral is a sign, digits without a superfluous zero in front, an optional
fraction and an optional exponent. One without fraction and exponent stands for an integer if that
fits 64 bits, with or without a sign; every other one stands for a floating-point number. That is
found from the leading digits that fit 64 bits, rounded, and then multiplied or divided by a rounded
power of ten, each step rounding once. -/

namespace LargerThanLife.Json

open Number

/-- A number as it is written. -/
structure Numeral where
  negative : Bool
  whole : List Char
  fraction : Option (List Char)
  exponent : Option Int
  deriving DecidableEq, Repr

/-- The meaning of a number. -/
inductive NumberValue where
  | integer (n : Int)
  | real (x : Binary64)
  deriving DecidableEq, Repr

namespace Numeral

/-- What is wrong with a number that lacks a digit before the rest of the text. -/
def lacking (rest : List Char) : Malformation := if rest = [] then .endOfText else .badNumber

/-- The digits before the point; only a single zero starts with one. -/
def readWhole : Scanner (List Char) := fun s =>
  let (digits, rest) := s.span Char.isDigit
  match digits with
  | [] => .error (lacking rest)
  | '0' :: _ :: _ => .error .badNumber
  | digits => .ok (digits, rest)

/-- The digits after a point, if there is a point. -/
def readFraction : Scanner (Option (List Char))
  | '.' :: rest =>
    let (digits, rest) := rest.span Char.isDigit
    if digits = [] then .error (lacking rest) else .ok (some digits, rest)
  | s => .ok (none, s)

/-- The power of ten after the letter `e`, if there is one. -/
def readExponent : Scanner (Option Int)
  | [] => .ok (none, [])
  | c :: rest =>
    if c = 'e' || c = 'E' then
      let (negative, rest) := Decimal.readSign rest
      let (digits, rest) := rest.span Char.isDigit
      match Text.Numeral.readDigits digits with
      | some n => .ok (some (if negative then -(n : Int) else n), rest)
      | none => .error (lacking rest)
    else .ok (none, c :: rest)

/-- The longest numeral at the front of a text, with what follows it. -/
def read : Scanner Numeral := fun s => do
  let (negative, s) := match s with
    | '-' :: rest => (true, rest)
    | s => (false, s)
  let (whole, rest) ← readWhole s
  let (fraction, rest) ← readFraction rest
  let (exponent, rest) ← readExponent rest
  return (⟨negative, whole, fraction, exponent⟩, rest)

/-- The greatest number of 64 bits. -/
def maxNatural : Nat := UInt64.size - 1

/-- The number that the leading digits add to `n` as long as it fits 64 bits, and the digits that
are left over. -/
def leading (n : Nat) : List Char → Nat × List Char
  | [] => (n, [])
  | c :: rest =>
    let next := n * 10 + (c.toNat - '0'.toNat)
    if next ≤ maxNatural then leading next rest else (n, c :: rest)

/-- The magnitude nearest to a power of ten. -/
def power (k : Nat) : Option Magnitude := nearest (powerOfTen k) 1

/-- The greatest power of ten in one step. -/
def maxPower : Nat := 308

def scaleUp (m : Magnitude) (k : Nat) : Option Magnitude :=
  if k ≤ maxPower then (power k).bind m.mul else if m.significand = 0 then some m else none

/-- A magnitude divided by a power of ten, in several steps if need be. -/
def scaleDown (m : Magnitude) (k : Nat) : Option Magnitude :=
  if k ≤ maxPower then (power k).bind m.div
  else if m.significand = 0 then some m
  else ((power maxPower).bind m.div).bind fun m => scaleDown m (k - maxPower)
termination_by k
decreasing_by simp only [maxPower] at *; omega

/-- The magnitude of a numeral. The digits of the whole part that are left over each count as a
factor of ten, those of the fraction are dropped. -/
def magnitude (x : Numeral) : Option Magnitude := do
  let fraction := x.fraction.getD []
  let (n, extra) := leading 0 x.whole
  let (n, dropped) := leading n fraction
  let exponent : Int :=
    x.exponent.getD 0 + extra.length - (fraction.length - dropped.length : Nat)
  let m ← nearest n 1
  if 0 ≤ exponent then scaleUp m exponent.toNat else scaleDown m (-exponent).toNat

/-- The integer of a numeral without fraction and exponent, if it fits 64 bits. A negative one uses
a bit for its sign, and zero has none. -/
def integer? (x : Numeral) : Option Int :=
  if x.fraction.isSome || x.exponent.isSome then none
  else
    let n := Nat.ofDigitChars 10 x.whole 0
    if x.negative then if 1 ≤ n && n ≤ 1 <<< 63 then some (-(n : Int)) else none
    else if n ≤ maxNatural then some n else none

/-- The meaning of a numeral; a number too great for a magnitude has none. -/
def value (x : Numeral) : Except Malformation NumberValue :=
  match x.integer? with
  | some n => .ok (.integer n)
  | none =>
    match x.magnitude with
    | some m => .ok (.real ⟨x.negative, m⟩)
    | none => .error .numberTooGreat

end Numeral

def readNumber : Scanner NumberValue := fun s => do
  let (numeral, rest) ← Numeral.read s
  return (← numeral.value, rest)

end LargerThanLife.Json
