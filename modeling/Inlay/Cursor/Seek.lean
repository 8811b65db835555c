import Inlay.Cursor.Scan

/-!
# Seeking

A target names a position from the start of the source, from the present
place, or from the end, by an offset of one machine word.  The position it
names is computed exactly and then cut to the range of signed words; it is
reached if it lies in the source, and otherwise the cursor stays where it is
and the fault reports the position.
-/

namespace Inlay.Cursor

/-- A position to go to. -/
inductive Target where
  | fromStart (offset : UInt64)
  | fromHere (offset : Int64)
  | fromEnd (offset : Int64)
  deriving DecidableEq

/-- The nearest integer that fits a signed word. -/
def saturate (value : Int) : Int :=
  max Int64.minValue.toInt (min value Int64.maxValue.toInt)

/-- The integer that a target names, seen from a cursor. -/
def aim (cursor : Cursor) : Target → Int
  | .fromStart offset => offset.toNat
  | .fromHere offset => cursor.position + offset.toInt
  | .fromEnd offset => cursor.length + offset.toInt

/-- Go to a target and report the new position. -/
def seek (target : Target) : Scan Nat := fun cursor =>
  let goal := saturate (cursor.aim target)
  if 0 ≤ goal ∧ goal ≤ cursor.length then
    .ok goal.toNat (cursor.moveTo goal.toNat)
  else
    .error (.outOfRange goal cursor.length) cursor

/-- Go back by a number of characters.  An amount that no signed word holds
goes as far back as signed words reach. -/
def back (amount : UInt64) : Scan Nat :=
  seek (.fromHere (Int64.ofInt (saturate (-amount.toNat))))

end Inlay.Cursor
