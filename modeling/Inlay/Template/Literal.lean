import Inlay.Template.Delimiters
import Inlay.Text.Basic

/-!
# Units of literal text

Literal text is written in units.  A plain unit is a character that stands for
itself.  An escaped unit is the escape and one arbitrary character behind it,
which stands for itself whatever it is.  The character that opens code ends
the literal text, also when it is the escape as well; an escape with nothing
behind it is no unit.

`LiteralUnit.split` divides a text into the units in front and what follows
them.  Writing the units gives back what was read, and what follows is empty,
begins with the opening character, or is an escape alone.
-/

namespace Inlay

/-- One character of literal text, as it is written. -/
inductive LiteralUnit where
  | plain (c : Char)
  | escaped (c : Char)
  deriving DecidableEq

namespace LiteralUnit

/-- The character that the unit stands for. -/
def meant : LiteralUnit → Char
  | plain c => c
  | escaped c => c

/-- Template text for the unit. -/
def written (delimiters : Delimiters) : LiteralUnit → Text
  | plain c => [c]
  | escaped c => [delimiters.escape, c]

/-- Template text for a sequence of units. -/
def writtenAll (delimiters : Delimiters) (units : List LiteralUnit) : Text :=
  units.flatMap (written delimiters)

/-- The units at the front of a text, and what follows them. -/
def split (delimiters : Delimiters) : Text → List LiteralUnit × Text
  | [] => ([], [])
  | [c] =>
      if c = delimiters.codeOpen ∨ c = delimiters.escape then ([], [c]) else ([plain c], [])
  | c :: next :: rest =>
      if c = delimiters.codeOpen then
        ([], c :: next :: rest)
      else if c = delimiters.escape then
        let (units, tail) := split delimiters rest
        (escaped next :: units, tail)
      else
        let (units, tail) := split delimiters (next :: rest)
        (plain c :: units, tail)

@[simp]
theorem writtenAll_nil (delimiters : Delimiters) : writtenAll delimiters [] = [] :=
  rfl

@[simp]
theorem writtenAll_cons (delimiters : Delimiters) (unit : LiteralUnit)
    (units : List LiteralUnit) :
    writtenAll delimiters (unit :: units) =
      unit.written delimiters ++ writtenAll delimiters units :=
  rfl

/-- Splitting loses nothing. -/
theorem writtenAll_split (delimiters : Delimiters) (text : Text) :
    writtenAll delimiters (split delimiters text).1 ++ (split delimiters text).2 = text := by
  fun_induction split delimiters text with
  | case1 => rfl
  | case2 => rfl
  | case3 => rfl
  | case4 => rfl
  | case5 _ _ units tail same _ ih =>
      rw [same] at ih
      simpa [written] using ih
  | case6 _ _ _ _ _ units tail same ih =>
      rw [same] at ih
      simpa [written] using ih

/-- Splitting ends at the end of the text, before an opening delimiter, or
before an escape with nothing behind it. -/
theorem split_stops (delimiters : Delimiters) (text : Text) :
    (split delimiters text).2 = [] ∨
      (split delimiters text).2.head? = some delimiters.codeOpen ∨
        (split delimiters text).2 = [delimiters.escape] := by
  fun_induction split delimiters text with
  | case1 => simp
  | case2 c stop =>
      rcases stop with rfl | rfl
      · simp
      · simp
  | case3 => simp
  | case4 => simp
  | case5 _ _ units tail same _ ih => simpa [same] using ih
  | case6 _ _ _ _ _ units tail same ih => simpa [same] using ih

end LiteralUnit

end Inlay
