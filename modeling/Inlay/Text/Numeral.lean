import Inlay.Text.Basic

/-!
# Numerals

A numeral writes a natural number by its digits in a base, the most
significant digit first.  Letters of either case are the digits from ten on.
-/

namespace Inlay.Text

/-- The value of a digit in the given base. -/
def digit? (base : Nat) (c : Char) : Option Nat :=
  let value :=
    if c.isDigit then c.toNat - '0'.toNat
    else if 'a' ≤ c ∧ c ≤ 'f' then c.toNat - 'a'.toNat + 10
    else if 'A' ≤ c ∧ c ≤ 'F' then c.toNat - 'A'.toNat + 10
    else base
  if value < base then some value else none

/-- The number with the given digits, behind another one. -/
def numeralBehind? (base : Nat) : Nat → Text → Option Nat
  | value, [] => some value
  | value, c :: rest => do
      let digit ← digit? base c
      numeralBehind? base (base * value + digit) rest

/-- The number that a numeral writes.  There is no numeral without digits. -/
def numeral? (base : Nat) (digits : Text) : Option Nat :=
  if digits.isEmpty then none else numeralBehind? base 0 digits

/-- The decimal numeral of a number. -/
def decimal (value : Nat) : Text :=
  Nat.toDigits 10 value

/-- The decimal numeral of a number, with zeros in front if it is too short. -/
def padded (width value : Nat) : Text :=
  List.replicate (width - (decimal value).length) '0' ++ decimal value

/-- Drop the zeros at the end. -/
def trimZeros (digits : Text) : Text :=
  (digits.reverse.dropWhile (· == '0')).reverse

/-- The integer with the given sign and magnitude, if it fits a signed word of
64 bits. -/
def word? (negative : Bool) (magnitude : Nat) : Option Int :=
  let value : Int := if negative then -magnitude else magnitude
  if Int64.minValue.toInt ≤ value ∧ value ≤ Int64.maxValue.toInt then some value else none

example : numeral? 16 ['f', 'F'] = some 255 ∧ numeral? 2 ['1', '2'] = none := by decide

example : padded 4 27 = ['0', '0', '2', '7'] ∧ trimZeros ['0', '5', '0'] = ['0', '5'] := by
  decide +kernel

end Inlay.Text
