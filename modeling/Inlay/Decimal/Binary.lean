import Inlay.Decimal.Basic

/-!
# Binary numbers

A binary number is a natural number of at most 53 bits times a power of two.
It has all 53 bits unless its exponent is the least one, so that every number
has a single form.  Signs, infinities and the like are no part of it.

A decimal number stands for the nearest binary number.  Of two that are equally
near it stands for the one with an even significand.  It stands for none if
the nearest one, were there no greatest exponent, has an exponent above that.
-/

namespace Inlay

/-- The number `significand * 2 ^ exponent`. -/
structure Binary where
  significand : Nat
  exponent : Int
  deriving DecidableEq

namespace Binary

/-- The number of bits of a significand. -/
def precision : Nat :=
  53

/-- The exponent of the numbers next to zero. -/
def leastExponent : Int :=
  -1074

/-- The exponent of the greatest numbers. -/
def greatestExponent : Int :=
  971

/-- The numerator of the number as a fraction. -/
def numerator (number : Binary) : Nat :=
  number.significand * Nat.pow 2 number.exponent.toNat

/-- The denominator of the number as a fraction. -/
def denominator (number : Binary) : Nat :=
  Nat.pow 2 (-number.exponent).toNat

/-! ## Rounding -/

/-- The natural number nearest to a fraction, and the even one of two that are
equally near. -/
def nearestNat (numerator denominator : Nat) : Nat :=
  let quotient := numerator / denominator
  let twice := 2 * (numerator % denominator)
  if twice < denominator ∨ (twice = denominator ∧ quotient % 2 = 0) then
    quotient
  else
    quotient + 1

/-- The exponent of the greatest power of two that is not above a positive
fraction.  It is the difference of those of the two sides, or one less. -/
def log2 (numerator denominator : Nat) : Int :=
  let difference : Int := numerator.log2 - denominator.log2
  if numerator * Nat.pow 2 (-difference).toNat < denominator * Nat.pow 2 difference.toNat then
    difference - 1
  else
    difference

/-- The binary number nearest to a fraction, if there is one. -/
def ofFraction? (numerator denominator : Nat) : Option Binary :=
  let exponent := max leastExponent (log2 numerator denominator - (precision - 1))
  let significand :=
    nearestNat (numerator * Nat.pow 2 (-exponent).toNat)
      (denominator * Nat.pow 2 exponent.toNat)
  let number : Binary :=
    if significand = Nat.pow 2 precision then
      ⟨Nat.pow 2 (precision - 1), exponent + 1⟩
    else
      ⟨significand, exponent⟩
  if number.exponent ≤ greatestExponent then some number else none

/-- The binary number that a decimal number stands for, if there is one.
Numbers of an order below -330 are next to zero, and those of an order above 310
exceed all binary numbers; neither is worth a computation. -/
def ofDecimal? (number : Decimal) : Option Binary :=
  if number.coefficient = 0 ∨ number.order < -330 then
    some ⟨0, leastExponent⟩
  else if 310 < number.order then
    none
  else
    ofFraction? number.numerator number.denominator

/-- One, the neighbours of zero and the greatest number. -/
example : ofDecimal? ⟨10, -1⟩ = some ⟨2 ^ 52, -52⟩ ∧
    ofDecimal? ⟨3, -324⟩ = some ⟨1, -1074⟩ ∧ ofDecimal? ⟨2, -324⟩ = some ⟨0, -1074⟩ ∧
    ofDecimal? ⟨17976931348623158, 292⟩ = some ⟨2 ^ 53 - 1, 971⟩ ∧
    ofDecimal? ⟨17976931348623159, 292⟩ = none := by decide +kernel

/-- Halfway between two numbers the even significand counts. -/
example : ofDecimal? ⟨2 ^ 53 + 1, 0⟩ = some ⟨2 ^ 52, 1⟩ ∧
    ofDecimal? ⟨2 ^ 53 + 3, 0⟩ = some ⟨2 ^ 52 + 2, 1⟩ := by decide +kernel

end Binary

end Inlay
