import Inlay.Cursor.Basic

/-!
# Scanning

A scan moves a cursor and gives a value or a fault.  After a fault the cursor
is where the failing scan left it.

Reading takes what comes next without judging it.  Accepting takes a character
only if it is among the wanted ones and never fails; expecting fails instead.
Both leave the cursor alone when the character is not wanted.  A sequence is
taken as a whole or not at all, and the fault of an expected sequence tells
where its first wrong character stands.
-/

namespace Inlay

/-- A computation that moves a cursor. -/
abbrev Scan (α : Type) : Type :=
  EStateM Fault Cursor α

namespace Cursor

/-! ## Single characters -/

/-- The next character, if there is one. -/
def peek : Scan (Option Char) := fun cursor =>
  .ok cursor.after.head? cursor

/-- Take the next character. -/
def read : Scan Char := fun cursor =>
  match cursor.after with
  | [] => .error (.endOfInput cursor.length) cursor
  | c :: rest => .ok c (cursor.pass [c] rest)

/-- Fail because of what comes next. -/
def refuse {α : Type} : Scan α := fun cursor =>
  match cursor.after with
  | [] => .error (.endOfInput cursor.length) cursor
  | found :: _ =>
      .error (.unexpected found cursor.location.line cursor.location.column) cursor.locate

/-- Take the next character if it is a wanted one. -/
def acceptAny (wanted : List Char) : Scan (Option Char) := fun cursor =>
  match cursor.after with
  | [] => .ok none cursor
  | c :: rest => if c ∈ wanted then .ok (some c) (cursor.pass [c] rest) else .ok none cursor

/-- Take the next character, which has to be a wanted one. -/
def expectAny (wanted : List Char) : Scan Char := do
  match ← acceptAny wanted with
  | some c => pure c
  | none => refuse

/-- Take the next character if it is the wanted one. -/
def accept (wanted : Char) : Scan (Option Char) :=
  acceptAny [wanted]

/-- Take the next character, which has to be the wanted one. -/
def expect (wanted : Char) : Scan Char :=
  expectAny [wanted]

/-! ## Sequences -/

/-- Run a scan; if it fails, return to where it began. -/
def atomically {α : Type} (scan : Scan α) : Scan α := fun cursor =>
  match scan cursor with
  | .ok value reached => .ok value reached
  | .error fault _ => .error fault { cursor with located := none }

/-- Take the given characters, which have to come next. -/
def expectSequence (wanted : Text) : Scan Unit :=
  atomically (wanted.forM fun c => discard (expect c))

/-- Take the given characters if they come next, and tell whether they did. -/
def acceptSequence (wanted : Text) : Scan Bool := fun cursor =>
  match wanted.isPrefixOf? cursor.after with
  | some rest => .ok true (cursor.pass wanted rest)
  | none => .ok false { cursor with located := none }

/-! ## Runs -/

/-- The longest run each character of which is accepted after the ones before
it, and what follows the run.  `seen` stands in front of the text. -/
def splitRun (accepts : Text → Char → Bool) (seen : Text) : Text → Text × Text
  | [] => ([], [])
  | c :: rest =>
      if accepts seen c then
        let split := splitRun accepts (seen ++ [c]) rest
        (c :: split.1, split.2)
      else
        ([], c :: rest)

/-- Take characters for as long as each is accepted after the ones taken
before it. -/
def readWhile (accepts : Text → Char → Bool) : Scan Text := fun cursor =>
  let split := splitRun accepts [] cursor.after
  .ok split.1 (cursor.pass split.1 split.2)

/-- Take characters for as long as they belong to a class. -/
def readWhileChar (accepts : Char → Bool) : Scan Text := fun cursor =>
  .ok (cursor.after.takeWhile accepts)
    (cursor.pass (cursor.after.takeWhile accepts) (cursor.after.dropWhile accepts))

/-- Take the blank characters that come next. -/
def skipBlanks : Scan Text :=
  readWhileChar Text.blank

/-- Take characters up to the next blank one. -/
def readUntilBlank : Scan Text :=
  readWhileChar fun c => !Text.blank c

/-- Take characters up to the next of the given ones. -/
def readUntilAny (stops : List Char) : Scan Text :=
  readWhileChar fun c => c ∉ stops

/-- Take characters up to the next that is blank or one of the given ones. -/
def readUntilBlankOrAny (stops : List Char) : Scan Text :=
  readWhileChar fun c => !(Text.blank c || c ∈ stops)

/-! ## Repetition -/

/-- Repeat a scan until it gives nothing, at most once for each of the given
characters, and collect what it gave. -/
def manyWithin {α : Type} (scan : Scan (Option α)) : Text → Scan (List α)
  | [] => pure []
  | _ :: limit => do
      match ← scan with
      | none => pure []
      | some first =>
          let others ← manyWithin scan limit
          pure (first :: others)

/-- Repeat a scan that takes a character whenever it gives something, until it
gives nothing.  There are no more repetitions than characters left. -/
def many {α : Type} (scan : Scan (Option α)) : Scan (List α) := fun cursor =>
  manyWithin scan cursor.after cursor

/-! ## What the scans do -/

/-- A run ends only at the end or before a character that is not accepted, so
nothing is lost. -/
theorem splitRun_append (accepts : Text → Char → Bool) (seen text : Text) :
    (splitRun accepts seen text).1 ++ (splitRun accepts seen text).2 = text := by
  induction text generalizing seen with
  | nil => rfl
  | cons c rest ih =>
      by_cases accepted : accepts seen c
      · simp [splitRun, accepted, ih]
      · simp [splitRun, accepted]

/-- When acceptance does not depend on the characters before, the run is the
longest prefix in the class. -/
theorem splitRun_const (accepts : Char → Bool) (seen text : Text) :
    splitRun (fun _ => accepts) seen text =
      (text.takeWhile accepts, text.dropWhile accepts) := by
  induction text generalizing seen with
  | nil => rfl
  | cons c rest ih =>
      by_cases accepted : accepts c
      · simp [splitRun, accepted, ih]
      · simp [splitRun, accepted]

theorem readWhileChar_eq_readWhile (accepts : Char → Bool) :
    readWhileChar accepts = readWhile fun _ => accepts := by
  funext cursor
  simp [readWhileChar, readWhile, splitRun_const]

end Cursor

end Inlay
