import Inlay.Config.Tree
import Inlay.Text.Numeral

/-!
# Written paths

A path is written as names and indices: a name first, then further names
behind periods and indices between brackets.  Names consist of ASCII letters,
digits, underscores and hyphens.  An index is a decimal integer that fits a
signed word of 64 bits; spaces and tabs may stand around it.  A key that is not
written like this is a name as a whole.
-/

namespace Inlay.Config.Path

/-- Characters of the names in a written path. -/
def nameChar (c : Char) : Bool :=
  c.isAlphanum || c == '_' || c == '-'

/-- Characters that may stand around an index. -/
def space (c : Char) : Bool :=
  c == ' ' || c == '\t'

/-- An index at the front of a text, with its space, and what follows it. -/
def index? (text : Text) : Option (Int × Text) := do
  let text := text.dropWhile space
  let (negative, text) := match text with
    | '-' :: digits => (true, digits)
    | digits => (false, digits)
  let magnitude ← Text.numeral? 10 (text.takeWhile Char.isDigit)
  let index ← Text.word? negative magnitude
  pure (index, (text.dropWhile Char.isDigit).dropWhile space)

/-- One step at the front of a text: a name behind a period, or an index
between brackets. -/
def step? : Text → Option (Step × Text)
  | '.' :: text =>
      let name := text.takeWhile nameChar
      if name.isEmpty then none else some (.name name, text.dropWhile nameChar)
  | '[' :: text =>
      match index? text with
      | some (index, ']' :: rest) => some (.index index, rest)
      | _ => none
  | _ => none

/-- The steps that make up a text, at most a number of them. -/
def steps? : Nat → Text → Option Path
  | _, [] => some []
  | 0, _ => none
  | limit + 1, text => do
      let (step, rest) ← step? text
      let path ← steps? limit rest
      pure (step :: path)

/-- The place that a key stands for. -/
def ofKey (key : Text) : Path :=
  (steps? (key.length + 1) ('.' :: key)).getD [.name key]

example : ofKey "grammar.escape".toList =
    [.name "grammar".toList, .name "escape".toList] := by decide

example : ofKey "a[ -1 ].b".toList = [.name ['a'], .index (-1), .name ['b']] ∧
    ofKey "a[+1]".toList = [.name "a[+1]".toList] := by decide

end Inlay.Config.Path
