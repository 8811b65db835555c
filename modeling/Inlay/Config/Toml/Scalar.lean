import Inlay.Config.Toml.Node
import Inlay.Cursor.Scan

/-!
# Scalars and keys of TOML

Texts are written in four ways: between quotes or apostrophes, on one line or
on several.  Between quotes a backslash begins an escape; between apostrophes
everything stands for itself.  Control characters other than the tab are not
allowed in any of them.

Numbers, truth values and moments are words, which end before the first
character that none of them has.  A date and a time may stand in two words with
a space between them.

A key is one name, or several with periods between them.  Names are bare words
or texts on one line.
-/

namespace Inlay.Config.Toml

open Cursor

/-- Fail for whatever reason a document cannot be read. -/
def malformed {α : Type} : Scan α :=
  throw .malformedSettings

/-- The value that a partial operation has. -/
def orMalformed {α : Type} : Option α → Scan α
  | some value => pure value
  | none => malformed

/-! ## Space -/

/-- Characters that may stand in comments and, but for their delimiters, in
texts. -/
def visible (c : Char) : Bool :=
  c == '\t' || (0x20 ≤ c.toNat && c.toNat != 0x7F)

/-- Take spaces and tabs. -/
def skipSpace : Scan Unit :=
  discard (readWhileChar fun c => c == ' ' || c == '\t')

/-- Take the end of a line, if it comes next, and give its characters. -/
def lineBreak? : Scan (Option Text) := do
  if ← acceptSequence ['\n'] then
    pure (some ['\n'])
  else if ← acceptSequence ['\r', '\n'] then
    pure (some ['\r', '\n'])
  else
    pure none

/-- Take a comment up to the end of the line, if one comes next. -/
def skipComment : Scan Unit := do
  if (← accept '#').isSome then
    discard (readWhileChar visible)

/-- Take space and comments over any number of lines. -/
def skipLines : Scan Unit := do
  discard <| many do
    skipSpace
    skipComment
    lineBreak?

/-- Take the rest of a line, which must have nothing but space and a
comment. -/
def endLine : Scan Unit := do
  skipSpace
  skipComment
  if (← lineBreak?).isNone && (← peek).isSome then
    malformed

/-! ## Texts -/

/-- Take a number of characters. -/
def readCount : Nat → Scan Text
  | 0 => pure []
  | count + 1 => do
      let c ← read
      let rest ← readCount count
      pure (c :: rest)

/-- Take a code point of the given number of hexadecimal digits. -/
def readCodePoint (digits : Nat) : Scan Char := do
  let code ← orMalformed (Text.numeral? 16 (← readCount digits))
  if code.isValidChar then pure (Char.ofNat code) else malformed

/-- Take what follows the backslash of an escape. -/
def readEscape : Scan Char := do
  match ← read with
  | 'b' => pure '\x08'
  | 'e' => pure '\x1b'
  | 't' => pure '\t'
  | 'n' => pure '\n'
  | 'f' => pure '\x0c'
  | 'r' => pure '\r'
  | '"' => pure '"'
  | '\\' => pure '\\'
  | 'x' => readCodePoint 2
  | 'u' => readCodePoint 4
  | 'U' => readCodePoint 8
  | _ => malformed

/-- Take one character of a text between quotes on one line, or nothing at the
closing quote. -/
def quotedChar? : Scan (Option Char) := do
  match ← peek with
  | none => malformed
  | some '"' => pure none
  | some '\\' => do
      discard read
      some <$> readEscape
  | some c => if visible c then some <$> read else malformed

/-- Take the rest of a text between quotes on one line. -/
def readQuoted : Scan Text := do
  let content ← many quotedChar?
  discard (expect '"')
  pure content

/-- Take the rest of a text between apostrophes on one line. -/
def readLiteral : Scan Text := do
  let content ← readWhileChar fun c => visible c && c != '\''
  discard (expect '\'')
  pure content

/-- Take one character that stands for itself in a text over several lines. -/
def readLinesChar : Scan Text := do
  match ← lineBreak? with
  | some characters => pure characters
  | none =>
      let c ← read
      if visible c then pure [c] else malformed

/-- Take space up to the end of the line behind a backslash, the end of the
line, and all space and further ends of lines. -/
def skipLineEnding : Scan Unit := do
  skipSpace
  if (← lineBreak?).isNone then malformed
  discard <| many do
    skipSpace
    lineBreak?
  skipSpace

/-- Take one unit of a text between quotes over several lines. -/
def readLinesUnit : Scan Text := do
  if (← accept '\\').isNone then
    readLinesChar
  else
    match ← peek with
    | some ' ' | some '\t' | some '\r' | some '\n' => do
        skipLineEnding
        pure []
    | _ => do
        let c ← readEscape
        pure [c]

/-- Take the rest of a text over several lines, with at most one unit for each
of the given characters.  Three delimiters close it; one or two more in front of
them belong to it. -/
def readLinesWithin (delimiter : Char) (unit : Scan Text) : Text → Scan Text
  | [] => malformed
  | _ :: limit => do
      let run ← readWhileChar (· == delimiter)
      if 5 < run.length then
        malformed
      else if 3 ≤ run.length then
        pure (run.drop 3)
      else
        let content ← unit
        let rest ← readLinesWithin delimiter unit limit
        pure (run ++ content ++ rest)

/-- Take the rest of a text over several lines.  The end of the first line is
not part of it if nothing comes before. -/
def readLines (delimiter : Char) (unit : Scan Text) : Scan Text := do
  discard lineBreak?
  fun cursor => readLinesWithin delimiter unit cursor.after cursor

/-- Take a text on one line, if one comes next. -/
def readTextOnLine? : Scan (Option Text) := do
  if (← accept '"').isSome then
    some <$> readQuoted
  else if (← accept '\'').isSome then
    some <$> readLiteral
  else
    pure none

/-- Take a text, if one comes next. -/
def readText? : Scan (Option Text) := do
  if ← acceptSequence ['"', '"', '"'] then
    some <$> readLines '"' readLinesUnit
  else if ← acceptSequence ['\'', '\'', '\''] then
    some <$> readLines '\'' readLinesChar
  else
    readTextOnLine?

/-! ## Words -/

/-- Characters of bare names. -/
def bare (c : Char) : Bool :=
  c.isAlphanum || c == '_' || c == '-'

/-- Characters of words. -/
def inWord (c : Char) : Bool :=
  bare c || c == '+' || c == '.' || c == ':'

/-- Take a word, or two if the first one is a date, which the letter between
date and time then joins. -/
def readWord : Scan Text := do
  let word ← readWhileChar inWord
  match date? word with
  | some (_, []) => do
      discard (accept ' ')
      let time ← readWhileChar inWord
      pure (if time.isEmpty then word else word ++ 'T' :: time)
  | _ => pure word

/-- What a word stands for. -/
def scalar? (word : Text) : Option Node :=
  if word = ['t', 'r', 'u', 'e'] then
    some (.boolean true)
  else if word = ['f', 'a', 'l', 's', 'e'] then
    some (.boolean false)
  else
    Node.integer <$> integer? word <|> Node.floating <$> floating? word <|>
      Node.moment <$> moment? word

/-- Take a text, a number, a truth value or a moment. -/
def readScalar : Scan Node := do
  match ← readText? with
  | some content => pure (.text content)
  | none => orMalformed (scalar? (← readWord))

/-! ## Keys -/

/-- Take one name of a key. -/
def readName : Scan Text := do
  match ← readTextOnLine? with
  | some name => pure name
  | none =>
      let name ← readWhileChar bare
      if name.isEmpty then malformed else pure name

/-- Take a period and the name behind it, if a period comes next. -/
def readFurtherName? : Scan (Option Text) := do
  skipSpace
  if (← accept '.').isNone then
    pure none
  else
    skipSpace
    some <$> readName

/-- How many names a key may have. -/
def nameLimit : Nat :=
  80

/-- Take a key and the space behind it. -/
def readKey : Scan Key := do
  let first ← readName
  let further ← many readFurtherName?
  let names := first :: further
  if nameLimit < names.length then
    malformed
  else
    pure { parents := names.dropLast, last := further.getLastD first }

end Inlay.Config.Toml
