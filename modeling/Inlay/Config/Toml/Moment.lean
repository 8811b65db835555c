import Inlay.Text.Numeral

/-!
# Dates and times of TOML

A moment is a date, a time of day, or both, and both may come with the offset of
the local time.  A moment is written in a single way: the letter `T` stands
between date and time, fractions of a second have at most nine digits and no
zeros at the end, and offsets are signed.  It is read from a few more: the
letters may be small, and fractions may have any number of digits, which are cut
off after nine of them.
-/

namespace Inlay.Config.Toml

/-- A day of the calendar. -/
structure Date where
  year : Nat
  month : Nat
  day : Nat
  deriving DecidableEq

/-- A time of day.  The seconds may be left out, and so may their fraction,
counted in billionths. -/
structure TimeOfDay where
  hour : Nat
  minute : Nat
  second : Option Nat
  fraction : Option Nat
  deriving DecidableEq

/-- The offset of a local time. -/
inductive Offset where
  | unknown
  | utc
  | minutes (count : Int)
  deriving DecidableEq

/-- A date, a time or both. -/
inductive Moment where
  | day (date : Date)
  | clock (time : TimeOfDay)
  | both (date : Date) (time : TimeOfDay) (offset : Offset)
  deriving DecidableEq

/-! ## The calendar -/

/-- Whether a year has a leap day. -/
def isLeap (year : Nat) : Bool :=
  year % 4 == 0 && (year % 100 != 0 || year % 400 == 0)

/-- The number of days of a month. -/
def daysIn (year month : Nat) : Nat :=
  if month = 2 then
    if isLeap year then 29 else 28
  else if month = 4 ∨ month = 6 ∨ month = 9 ∨ month = 11 then
    30
  else
    31

/-- Whether the calendar has a date. -/
def Date.valid (date : Date) : Bool :=
  1 ≤ date.month && date.month ≤ 12 && 1 ≤ date.day && date.day ≤ daysIn date.year date.month

/-- Whether the clock shows a time.  A leap second is always possible. -/
def TimeOfDay.valid (time : TimeOfDay) : Bool :=
  time.hour ≤ 23 && time.minute ≤ 59 && time.second.getD 0 ≤ 60

/-! ## Writing -/

/-- How a date is written. -/
def Date.written (date : Date) : Text :=
  Text.padded 4 date.year ++ '-' :: Text.padded 2 date.month ++ '-' :: Text.padded 2 date.day

/-- How a fraction of a second is written. -/
def writtenFraction (billionths : Nat) : Text :=
  match Text.trimZeros (Text.padded 9 billionths) with
  | [] => ['0']
  | digits => digits

/-- How a time is written. -/
def TimeOfDay.written (time : TimeOfDay) : Text :=
  Text.padded 2 time.hour ++ ':' :: Text.padded 2 time.minute ++
    (time.second.elim [] fun second => ':' :: Text.padded 2 second) ++
    (time.fraction.elim [] fun fraction => '.' :: writtenFraction fraction)

/-- How an offset is written. -/
def Offset.written : Offset → Text
  | unknown => []
  | utc => ['Z']
  | minutes count =>
      (if count < 0 then '-' else '+') :: Text.padded 2 (count.natAbs / 60) ++
        ':' :: Text.padded 2 (count.natAbs % 60)

/-- How a moment is written. -/
def Moment.written : Moment → Text
  | day date => date.written
  | clock time => time.written
  | both date time offset => date.written ++ 'T' :: time.written ++ offset.written

/-! ## Reading -/

/-- A number of a fixed width at the front of a text, and what follows it. -/
def field? (width : Nat) (text : Text) : Option (Nat × Text) :=
  if (text.take width).length = width then do
    let value ← Text.numeral? 10 (text.take width)
    pure (value, text.drop width)
  else
    none

/-- A number of two digits behind a separator, and what follows it. -/
def fieldBehind? (separator : Char) : Text → Option (Nat × Text)
  | [] => none
  | c :: text => if c = separator then field? 2 text else none

/-- The date at the front of a text, and what follows it. -/
def date? (text : Text) : Option (Date × Text) := do
  let (year, text) ← field? 4 text
  let (month, text) ← fieldBehind? '-' text
  let (day, text) ← fieldBehind? '-' text
  let date : Date := { year, month, day }
  if date.valid then some (date, text) else none

/-- The fraction of a second at the front of a text, if there is a point, and
what follows it. -/
def billionths? : Text → Option (Option Nat × Text)
  | '.' :: text => do
      let digits := text.takeWhile Char.isDigit
      if digits.isEmpty then
        none
      else
        let value ← Text.numeral? 10 ((digits ++ List.replicate 8 '0').take 9)
        pure (some value, text.dropWhile Char.isDigit)
  | text => some (none, text)

/-- The time at the front of a text, and what follows it. -/
def timeOfDay? (text : Text) : Option (TimeOfDay × Text) := do
  let (hour, text) ← field? 2 text
  let (minute, text) ← fieldBehind? ':' text
  let (time, text) : TimeOfDay × Text ← match text with
    | ':' :: text => do
        let (second, text) ← field? 2 text
        let (fraction, text) ← billionths? text
        pure ({ hour, minute, second, fraction }, text)
    | text => pure ({ hour, minute, second := none, fraction := none }, text)
  if time.valid then some (time, text) else none

/-- The offset that a text stands for. -/
def offset? : Text → Option Offset
  | [] => some .unknown
  | ['Z'] => some .utc
  | ['z'] => some .utc
  | sign :: text => do
      let (hours, text) ← field? 2 text
      let (minutes, text) ← fieldBehind? ':' text
      let total : Int := hours * 60 + minutes
      if !text.isEmpty || 23 < hours || 59 < minutes then
        none
      else if sign = '+' then
        some (.minutes total)
      else if sign = '-' then
        some (.minutes (-total))
      else
        none

/-- The moment that a text stands for. -/
def moment? (text : Text) : Option Moment :=
  match date? text with
  | some (date, []) => some (.day date)
  | some (date, separator :: text) =>
      if separator = 'T' ∨ separator = 't' then do
        let (time, text) ← timeOfDay? text
        let offset ← offset? text
        pure (.both date time offset)
      else
        none
  | none =>
      match timeOfDay? text with
      | some (time, []) => some (.clock time)
      | _ => none

/-- A fraction with zeros at the end, and an offset that is zero. -/
example : (moment? "1979-05-27t07:32:00.50-00:00".toList).map Moment.written =
    some "1979-05-27T07:32:00.5+00:00".toList := by decide +kernel

example : moment? "2100-02-29".toList = none ∧ moment? "7:32".toList = none ∧
    moment? "24:00".toList = none := by decide

end Inlay.Config.Toml
