import Inlay.Duration.Basic

/-!
# Matching a written duration

At the front of a text there may be one part of each unit, from days down to
milliseconds, and blanks between them.  `Match.initial` goes through the units
once, takes the part of a unit where there is one, and always takes the
blanks; so a match may be empty, consist of blanks only, or have blanks at
both ends.

Going through the units in order, two digits and an `m` are minutes even if an
`s` comes next.  `Match.completed` puts this right: then the count is one of
milliseconds, and the `s` belongs to it.
-/

namespace Inlay.Duration

/-- The decimal digits at the front of a text, at most a number of them, and
what follows. -/
def splitDigits : Nat → Text → Text × Text
  | 0, text => ([], text)
  | _ + 1, [] => ([], [])
  | limit + 1, c :: rest =>
      if c.isDigit then
        let (digits, tail) := splitDigits limit rest
        (c :: digits, tail)
      else
        ([], c :: rest)

/-- A part of the given unit at the front of a text, and what follows it. -/
def takePart? (unit : TimeUnit) (text : Text) : Option (Part × Text) :=
  let (digits, tail) := splitDigits unit.maxDigits text
  if digits.isEmpty then
    none
  else
    (unit.letters.isPrefixOf? tail).map fun rest => (⟨unit, digits⟩, rest)

/-- What was found at the front of a text. -/
structure Match where
  /-- The parts, from large units to small ones. -/
  parts : List Part
  /-- The parts and all blanks, as they stand in the text. -/
  consumed : Text
  /-- What follows. -/
  rest : Text
  deriving DecidableEq

namespace Match

/-- Blanks and parts of the given units, in this order. -/
def ofUnits : List TimeUnit → Text → Match
  | [], text => ⟨[], [], text⟩
  | unit :: later, text =>
      match takePart? unit text.trimStart with
      | some (part, rest) =>
          let found := ofUnits later rest
          ⟨part :: found.parts, text.leading ++ part.written ++ found.consumed, found.rest⟩
      | none =>
          let found := ofUnits later text.trimStart
          ⟨found.parts, text.leading ++ found.consumed, found.rest⟩

/-- What one pass through the units finds: a part in days, if the text begins
with one, and then blanks and parts of the smaller units. -/
def initial (text : Text) : Match :=
  let smaller := ofUnits [.hour, .minute, .second, .millisecond]
  match takePart? .day text with
  | some (part, rest) =>
      let found := smaller rest
      ⟨part :: found.parts, part.written ++ found.consumed, found.rest⟩
  | none => smaller text

/-- The blanks in front of the parts. -/
def lead (found : Match) : Text :=
  found.consumed.leading

/-- The parts and the blanks between them. -/
def written (found : Match) : Text :=
  found.consumed.trim

/-- The blanks behind the parts. -/
def trail (found : Match) : Text :=
  found.consumed.trimStart.trailing

/-- The duration that the parts stand for. -/
def duration (found : Match) : Duration :=
  ofParts found.parts

/-- Minutes with an `s` directly behind them are milliseconds. -/
def completed (found : Match) : Match :=
  match found.parts.getLast?, found.trail, found.rest with
  | some ⟨.minute, digits⟩, [], 's' :: rest =>
      ⟨found.parts.dropLast ++ [⟨.millisecond, digits⟩], found.consumed ++ ['s'], rest⟩
  | _, _, _ => found

/-- The match at the front of a text. -/
def front (text : Text) : Match :=
  (initial text).completed

end Match

/-- The duration that a text stands for, when it is one written duration with
nothing but blanks around it. -/
def parse? (text : Text) : Option Duration :=
  let found := Match.front text.trim
  if found.parts.isEmpty || !found.rest.isEmpty then none else some found.duration

/-- A short count of milliseconds is not one of minutes. -/
example : parse? "10ms".toList = some ⟨10⟩ ∧ parse? " 1m 10ms".toList = some ⟨60010⟩ := by
  decide

end Inlay.Duration
