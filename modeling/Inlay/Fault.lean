import Inlay.Template.Delimiters
import Inlay.Text.Basic

/-!
# Faults

Everything that can go wrong, by cause.  A fault carries what its report
mentions, and `Fault.message` is the one place where reports are worded.
-/

namespace Inlay

/-- Why an operation failed. -/
inductive Fault where
  /-- There is nothing to read. -/
  | emptySource
  /-- A target position lies outside a source of the given length. -/
  | outOfRange (position : Int) (length : Nat)
  /-- A source of the given length ended where a character was needed. -/
  | endOfInput (length : Nat)
  /-- A character other than the ones that may stand at this place. -/
  | unexpected (found : Char) (line column : Nat)
  /-- The settings give a delimiter that is not exactly one character. -/
  | notOneCharacter (role : Delimiters.Role) (value : Text)
  /-- No scope has this name. -/
  | unknownScope (name : Text)
  /-- The settings cannot be read, or have the wrong shape. -/
  | malformedSettings
  /-- The settings are placed in a list too far from its ends. -/
  | unreachableIndex
  /-- Code failed when it was executed. -/
  | execution (report : Text)
  deriving DecidableEq

namespace Fault

/-- How a fault is reported. -/
def message : Fault → String
  | emptySource => "Invalid source: source must contain at least one character"
  | outOfRange position length =>
      s!"Position {position} is out of range for source of length {length}"
  | endOfInput length => s!"Unexpected end of input after {length} characters"
  | unexpected found line column =>
      s!"Unexpected character at index {column} on line {line}: {found}"
  | notOneCharacter role value =>
      "Config error: grammar." ++ role.key ++ " must be exactly one character, got '" ++
        String.ofList value ++ "'"
  | unknownScope name => "Config error: unknown binding scope '" ++ String.ofList name ++ "'"
  | malformedSettings => "Config error: malformed settings"
  | unreachableIndex => "Config error: index out of reach"
  | execution report => "Execution error: " ++ String.ofList report

end Fault

end Inlay
