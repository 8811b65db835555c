import Inlay.Decimal.Shortest

/-!
# Numbers of TOML

Integers are decimal, or hexadecimal, octal or binary behind a marker.  They fit
a signed word of 64 bits.

A floating-point number is a decimal integer with a fraction or an exponent or
both; it counts as the binary number that it stands for, and has to stand for
one.  There are also the infinities and what is not a number.

Decimal integers have no zeros in front, and single underscores may stand
between the digits of every number.
-/

namespace Inlay.Config.Toml

/-! ## Digits -/

/-- The given digits without the underscores, each of which has to stand
between two of them. -/
def joined? (digits : Text) : Option Text :=
  let groups := digits.splitOn '_'
  if groups.any List.isEmpty then none else some groups.flatten

/-- The number with the given digits. -/
def separated? (base : Nat) (digits : Text) : Option Nat := do
  Text.numeral? base (← joined? digits)

/-- The number with the given decimal digits, without zeros in front. -/
def decimal? (digits : Text) : Option Nat :=
  match digits with
  | '0' :: _ :: _ => none
  | _ => separated? 10 digits

/-- Whether a number has a minus sign, and what follows its sign. -/
def splitSign : Text → Bool × Text
  | '-' :: digits => (true, digits)
  | '+' :: digits => (false, digits)
  | digits => (false, digits)

/-! ## Integers -/

/-- The integer that a word stands for. -/
def integer? (word : Text) : Option Int :=
  match word with
  | '0' :: 'x' :: digits => separated? 16 digits >>= Text.word? false
  | '0' :: 'o' :: digits => separated? 8 digits >>= Text.word? false
  | '0' :: 'b' :: digits => separated? 2 digits >>= Text.word? false
  | _ =>
      let (negative, digits) := splitSign word
      decimal? digits >>= Text.word? negative

example : integer? "-1_000".toList = some (-1000) ∧ integer? "0x_1".toList = none ∧
    integer? "01".toList = none := by decide

/-! ## Floating-point numbers -/

/-- A floating-point number. -/
inductive Floating where
  | finite (negative : Bool) (magnitude : Binary)
  | infinite (negative : Bool)
  | notANumber
  deriving DecidableEq

/-- How a floating-point number is written. -/
def Floating.written : Floating → Text
  | finite negative magnitude => (if negative then ['-'] else []) ++ magnitude.shortest.written
  | infinite negative => if negative then ['-', 'i', 'n', 'f'] else ['i', 'n', 'f']
  | notANumber => ['N', 'a', 'N']

/-- Characters of a run of digits. -/
def inDigits (c : Char) : Bool :=
  c.isDigit || c == '_'

/-- The fraction at the front of a text, which is empty if there is no point,
and what follows it. -/
def fraction? : Text → Option (Text × Text)
  | '.' :: text => do
      let digits ← joined? (text.takeWhile inDigits)
      pure (digits, text.dropWhile inDigits)
  | text => some ([], text)

/-- The exponent that a text consists of, or zero if there is no text. -/
def exponent? : Text → Option Int
  | [] => some 0
  | marker :: text =>
      if marker = 'e' ∨ marker = 'E' then do
        let (negative, digits) := splitSign text
        let magnitude ← separated? 10 digits
        pure (if negative then -magnitude else magnitude)
      else
        none

/-- The decimal number that a text without a sign stands for. -/
def magnitude? (text : Text) : Option Decimal := do
  let whole ← decimal? (text.takeWhile inDigits)
  let behind := text.dropWhile inDigits
  if behind.isEmpty then none
  let (fraction, rest) ← fraction? behind
  let coefficient ← Text.numeralBehind? 10 whole fraction
  let exponent ← exponent? rest
  pure { coefficient, exponent := exponent - fraction.length }

/-- The floating-point number that a word stands for. -/
def floating? (word : Text) : Option Floating :=
  let (negative, text) := splitSign word
  if text = ['i', 'n', 'f'] then
    some (.infinite negative)
  else if text = ['n', 'a', 'n'] then
    some .notANumber
  else
    (magnitude? text >>= Binary.ofDecimal?).map (.finite negative)

/-- The fraction and the exponent move the point. -/
example : magnitude? "1_0.2_5e-1".toList = some ⟨1025, -3⟩ ∧ magnitude? "5.".toList = none ∧
    magnitude? ".5".toList = none ∧ magnitude? "1e_3".toList = none ∧
    magnitude? "1".toList = none := by decide

example : (floating? "-0.50".toList).map Floating.written = some "-0.5".toList := by
  decide +kernel

end Inlay.Config.Toml
