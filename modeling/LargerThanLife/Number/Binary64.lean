/-! Finite floating-point numbers of 53 binary digits, by exact arithmetic on natural numbers. A
magnitude is a significand times a power of two. `nearest` gives the magnitude closest to a quotient
of natural numbers, the one with the even significand when two are equally close, and none when
the quotient is too great; sums play no part here, so products and quotients are all there is. -/

namespace LargerThanLife.Number

/-- The natural number nearest to `num / den`, the even one of two. -/
def roundHalfEven (num den : Nat) : Nat :=
  let quotient := num / den
  let rest := num % den
  if 2 * rest < den || (2 * rest == den && quotient % 2 == 0) then quotient else quotient + 1

def powerOfTen (k : Nat) : Nat := Nat.pow 10 k

/-- The number `significand * 2 ^ exponent`. -/
structure Magnitude where
  significand : Nat
  exponent : Int
  deriving DecidableEq, Repr

/-- The least power of two that a magnitude can be a multiple of. -/
def minExponent : Int := -1074

def maxExponent : Int := 971

/-- The greatest `k` with `2 ^ k ≤ num / den`, for positive `num` and `den`. -/
def floorLog2 (num den : Nat) : Int :=
  let guess : Int := (Nat.log2 num : Int) - Nat.log2 den
  if den <<< guess.toNat ≤ num <<< (-guess).toNat then guess else guess - 1

/-- The magnitude nearest to `num / den`, if there is one. -/
def nearest (num den : Nat) : Option Magnitude :=
  if num = 0 then some ⟨0, minExponent⟩
  else
    let exponent := max minExponent (floorLog2 num den - 52)
    let significand := roundHalfEven (num <<< (-exponent).toNat) (den <<< exponent.toNat)
    let rounded : Magnitude :=
      if significand = 1 <<< 53 then ⟨1 <<< 52, exponent + 1⟩ else ⟨significand, exponent⟩
    if rounded.exponent ≤ maxExponent then some rounded else none

namespace Magnitude

def num (x : Magnitude) : Nat := x.significand <<< x.exponent.toNat

def den (x : Magnitude) : Nat := 1 <<< (-x.exponent).toNat

def mul (x y : Magnitude) : Option Magnitude := nearest (x.num * y.num) (x.den * y.den)

/-- The magnitude nearest to `x / y`, for a `y` other than zero. -/
def div (x y : Magnitude) : Option Magnitude := nearest (x.num * y.den) (x.den * y.num)

end Magnitude

/-- A signed magnitude; there are two zeros. -/
structure Binary64 where
  negative : Bool
  magnitude : Magnitude
  deriving DecidableEq, Repr

end LargerThanLife.Number
