import Inlay.Cursor.Scan
import Inlay.Template.Literal
import Inlay.Template.Segment

/-!
# Reading segments

A template is read from left to right.  Where the opening delimiter comes
next, a fragment is read: its code up to the first closing delimiter and then,
if a name opens directly behind it, the name up to the first character that
closes it.  Nothing inside a fragment is escaped.  Everywhere else a literal is
read, unit by unit, up to the next opening delimiter or the end.

The only way to fail is to reach the end of the source inside a fragment or
behind an escape.  The scans below may be called at any place, and a scan that
fails leaves the cursor where it stopped.
-/

namespace Inlay

open Cursor

/-- Read the rest of a fragment whose opening delimiter was taken already. -/
def Fragment.readBody (delimiters : Delimiters) : Scan Fragment := do
  let code ← readUntilAny [delimiters.codeClose]
  discard (expect delimiters.codeClose)
  match ← accept delimiters.nameOpen with
  | none => pure { code }
  | some _ =>
      let name ← readUntilAny [delimiters.nameClose]
      discard (expect delimiters.nameClose)
      pure { code, name := some name }

namespace Segment

/-- Take the units of literal text that come next. -/
def readUnits (delimiters : Delimiters) : Scan (List LiteralUnit) := fun cursor =>
  let (units, tail) := LiteralUnit.split delimiters cursor.after
  .ok units (cursor.pass (LiteralUnit.writtenAll delimiters units) tail)

/-- Read literal text up to the next opening delimiter or the end.  What
remains otherwise is an escape, and reading it and the character it needs
fails at the end. -/
def readLiteral (delimiters : Delimiters) : Scan Segment := do
  let units ← readUnits delimiters
  match ← peek with
  | none => pure ()
  | some c =>
      if c = delimiters.codeOpen then
        pure ()
      else
        discard read
        discard read
  pure (literal (units.map LiteralUnit.meant))

/-- Read one segment. -/
def readNext (delimiters : Delimiters) : Scan Segment := do
  match ← accept delimiters.codeOpen with
  | some _ => code <$> Fragment.readBody delimiters
  | none => readLiteral delimiters

/-- Read one segment, unless the end is reached. -/
def readNext? (delimiters : Delimiters) : Scan (Option Segment) := do
  match ← peek with
  | none => pure none
  | some _ => some <$> readNext delimiters

/-- Read all segments up to the end. -/
def readAll (delimiters : Delimiters) : Scan (List Segment) :=
  many (readNext? delimiters)

/-- The segments of a template text, which must not be empty. -/
def parse (delimiters : Delimiters) (source : Text) : Except Fault (List Segment) := do
  let cursor ← Cursor.ofSource source
  match readAll delimiters cursor with
  | .ok segments _ => pure segments
  | .error fault _ => throw fault

end Segment

end Inlay
