import Inlay.Text.Numeral

/-!
# Decimal numbers

A decimal number is a natural number times a power of ten.  It is written
without an exponent: all digits in front of the point, and behind it those up to
the last one that is no zero.  The point is left out if no digit follows it.
-/

namespace Inlay

/-- The number `coefficient * 10 ^ exponent`. -/
structure Decimal where
  coefficient : Nat
  exponent : Int
  deriving DecidableEq

namespace Decimal

/-- The numerator of the number as a fraction. -/
def numerator (number : Decimal) : Nat :=
  number.coefficient * Nat.pow 10 number.exponent.toNat

/-- The denominator of the number as a fraction. -/
def denominator (number : Decimal) : Nat :=
  Nat.pow 10 (-number.exponent).toNat

/-- The power of ten that exceeds the number least, unless the number is
zero. -/
def order (number : Decimal) : Int :=
  (Text.decimal number.coefficient).length + number.exponent

/-- How a number is written. -/
def written (number : Decimal) : Text :=
  let whole := Text.decimal (number.numerator / number.denominator)
  let fraction :=
    Text.padded (-number.exponent).toNat (number.numerator % number.denominator)
  match Text.trimZeros fraction with
  | [] => whole
  | fraction => whole ++ '.' :: fraction

example : written ⟨150, -2⟩ = ['1', '.', '5'] ∧ written ⟨15, 2⟩ = ['1', '5', '0', '0'] ∧
    written ⟨5, -2⟩ = ['0', '.', '0', '5'] ∧ written ⟨0, -1⟩ = ['0'] := by decide +kernel

end Decimal

end Inlay
