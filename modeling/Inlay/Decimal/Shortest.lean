import Inlay.Decimal.Binary

/-!
# Shortest decimals

Of the decimal numbers that stand for a binary number, the one with the fewest
digits is shown.  It is found by trying one digit, two digits and so on: with
every number of digits there are two decimals around the binary number.  If both
stand for it, the nearer one is taken, and of two that are equally near the
greater one.
-/

namespace Inlay.Binary

/-- Whether a decimal number stands for the number. -/
def standsFor (decimal : Decimal) (number : Binary) : Bool :=
  ofDecimal? decimal = some number

/-- The least power of ten above the number, or one if the number is zero. -/
def order (number : Binary) : Int :=
  let whole := number.numerator / number.denominator
  if whole = 0 then
    1 - (Text.decimal ((number.denominator - 1) / number.numerator)).length
  else
    (Text.decimal whole).length

/-- The best multiple of a power of ten that stands for the number, if any
does.  It is one of the two that enclose the number. -/
def multiple? (exponent : Int) (number : Binary) : Option Decimal :=
  let numerator := number.numerator * Nat.pow 10 (-exponent).toNat
  let denominator := number.denominator * Nat.pow 10 exponent.toNat
  let below : Decimal := ⟨numerator / denominator, exponent⟩
  let above : Decimal := ⟨numerator / denominator + 1, exponent⟩
  match standsFor below number, standsFor above number with
  | true, true => some (if 2 * (numerator % denominator) < denominator then below else above)
  | true, false => some below
  | false, true => some above
  | false, false => none

/-- The number itself as a decimal number. -/
def exact (number : Binary) : Decimal where
  coefficient :=
    number.significand * Nat.pow 2 number.exponent.toNat * Nat.pow 5 (-number.exponent).toNat
  exponent := min 0 number.exponent

/-- The shortest decimal number that stands for the number.  Seventeen digits
are always enough; the exact value is there so that no proof of this is
needed. -/
def shortest (number : Binary) : Decimal :=
  let attempt (more : Nat) := multiple? (number.order - (more + 1)) number
  ((List.range 17).findSome? attempt).getD number.exact

/-- Zero, a number next to it, a power of ten from below, and a tie. -/
example : shortest ⟨0, -1074⟩ = ⟨0, -1⟩ ∧ shortest ⟨1, -1074⟩ = ⟨5, -324⟩ ∧
    (ofDecimal? ⟨1, 23⟩).map shortest = some ⟨10, 22⟩ ∧
    shortest ⟨2 ^ 52, -77⟩ = ⟨29802322387695313, -24⟩ := by decide +kernel

end Inlay.Binary
