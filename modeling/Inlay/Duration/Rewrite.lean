import Inlay.Duration.Match
import Inlay.Fault
import Inlay.Text.Bytes

/-!
# Rewriting durations

A text is cut from left to right into pieces: written durations, and the text
between them, which is copied.  Where a match begins with a part, the part and
what belongs to it make a written duration, and the blanks around it are
copied; where nothing matches, one character is copied.

Rewriting hands each duration to a replacer, in the order of the text, and
puts the replacer's text in the place of the written one.  A replacer may keep
a state.  `normalize` writes the number of milliseconds.
-/

namespace Inlay.Duration

/-- A piece of a text. -/
inductive Piece where
  /-- Text that is no part of a written duration. -/
  | copied (text : Text)
  /-- A written duration and what it stands for. -/
  | duration (written : Text) (value : Duration)
  deriving DecidableEq

namespace Piece

/-- The piece as it stands in the text. -/
def source : Piece → Text
  | copied text => text
  | duration written _ => written

/-- The piece after rewriting. -/
def rewriteWith {σ : Type} (replace : Duration → StateM σ Text) : Piece → StateM σ Text
  | copied text => pure text
  | duration _ value => replace value

end Piece

/-- The pieces that a match covers. -/
def Match.pieces (found : Match) : List Piece :=
  if found.parts.isEmpty then
    [.copied found.consumed]
  else
    [.copied found.lead, .duration found.written found.duration, .copied found.trail]

/-- The pieces of a text, from at most a number of matches. -/
def piecesUpTo : Nat → Text → List Piece
  | 0, _ => []
  | _ + 1, [] => []
  | limit + 1, c :: rest =>
      let found := Match.front (c :: rest)
      if found.consumed.isEmpty then
        .copied [c] :: piecesUpTo limit rest
      else
        found.pieces ++ piecesUpTo limit found.rest

/-- The pieces of a text.  No text has more of them to look for than
characters. -/
def pieces (text : Text) : List Piece :=
  piecesUpTo text.length text

/-- Replace every written duration. -/
def rewriteWith {σ : Type} (replace : Duration → StateM σ Text) (text : Text) :
    StateM σ Text := do
  let rewritten ← (pieces text).mapM (Piece.rewriteWith replace)
  pure rewritten.flatten

/-- Replace every written duration by a text that depends on nothing else. -/
def rewrite (replace : Duration → Text) (text : Text) : Text :=
  (rewriteWith (fun value => pure (replace value)) text ()).1

/-- Replace every written duration by its number of milliseconds. -/
def normalize (text : Text) : Text :=
  rewrite digits text

/-- Replace the written durations between two byte offsets.  The offsets have
to be character boundaries in order; otherwise the fault reports the second
one, read as a signed word, and the length in bytes. -/
def rewriteRange {σ : Type} (replace : Duration → StateM σ Text) (first last : UInt64)
    (text : Text) : ExceptT Fault (StateM σ) Text := do
  let cut := do
    let (upToLast, behind) ← text.splitAtByte? last.toNat
    let (before, range) ← Text.splitAtByte? first.toNat upToLast
    some (before, range, behind)
  match cut with
  | none => throw (.outOfRange last.toInt64.toInt text.byteLength)
  | some (before, range, behind) => do
      let rewritten ← rewriteWith replace range
      pure (before ++ rewritten ++ behind)

/-- Durations in a row, and one whose last unit is completed. -/
example : normalize "a 1d 2h, 1h1d 5ms".toList = "a 93600000, 360000086400005".toList := by
  decide +kernel

end Inlay.Duration
