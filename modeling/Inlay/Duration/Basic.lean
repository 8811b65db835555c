import Inlay.Text.Basic

/-!
# Durations

A duration is a whole number of milliseconds.  It is written with five units,
each with its letters and the greatest number of digits that a count of it may
have.  A part of a written duration is such a count and its unit.
-/

namespace Inlay

/-- A length of time. -/
structure Duration where
  milliseconds : Nat
  deriving DecidableEq

namespace Duration

/-- Whole seconds, rounded down. -/
def seconds (duration : Duration) : Nat :=
  duration.milliseconds / 1000

/-- The number of milliseconds in decimal digits. -/
def digits (duration : Duration) : Text :=
  Nat.toDigits 10 duration.milliseconds

/-- The value of a row of decimal digits. -/
def decimal (digits : Text) : Nat :=
  digits.foldl (fun value digit => 10 * value + (digit.toNat - '0'.toNat)) 0

/-- What a count in a written duration counts. -/
inductive TimeUnit where
  | day
  | hour
  | minute
  | second
  | millisecond
  deriving DecidableEq

namespace TimeUnit

/-- How many milliseconds one unit is. -/
def milliseconds : TimeUnit → Nat
  | day => 86400000
  | hour => 3600000
  | minute => 60000
  | second => 1000
  | millisecond => 1

/-- The letters of the unit. -/
def letters : TimeUnit → Text
  | day => ['d']
  | hour => ['h']
  | minute => ['m']
  | second => ['s']
  | millisecond => ['m', 's']

/-- The greatest number of digits of a count. -/
def maxDigits : TimeUnit → Nat
  | day => 3
  | hour => 2
  | minute => 2
  | second => 2
  | millisecond => 3

end TimeUnit

/-- A count and its unit, as written. -/
structure Part where
  unit : TimeUnit
  digits : Text
  deriving DecidableEq

namespace Part

/-- The digits and the letters behind them. -/
def written (part : Part) : Text :=
  part.digits ++ part.unit.letters

/-- The length of time that the part stands for. -/
def milliseconds (part : Part) : Nat :=
  decimal part.digits * part.unit.milliseconds

end Part

/-- The sum of the parts. -/
def ofParts (parts : List Part) : Duration where
  milliseconds := parts.foldr (fun part total => part.milliseconds + total) 0

example : ofParts [⟨.hour, ['1']⟩, ⟨.second, ['0', '9']⟩] = ⟨3609000⟩ := by decide

end Duration

end Inlay
