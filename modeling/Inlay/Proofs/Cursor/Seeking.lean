import Mathlib.Algebra.Group.Int.Defs
import Mathlib.Algebra.Group.Nat.Defs
import Inlay.Cursor.Seek

/-!
# Seeking at the limits

A target names an integer, and only what fits a signed word is ever compared
with the source.  Cutting an integer to the range of signed words keeps the
side of a position on which it lies, as long as there are signed words on
either side.  So a target is reached exactly if the integer that it names is a
position, and cutting shows in the reports of faults alone.  A source whose length
is the greatest signed word has none beyond it: there, a target behind the end is
taken for the end.

Going back by more characters than signed words count is cut as well, to an
offset that leads out of every source.
-/

namespace Inlay.Cursor

variable {cursor : Cursor} {target : Target} {amount : UInt64}

/-! ## Cutting to signed words -/

theorem minValue_eq : Int64.minValue.toInt = -2 ^ 63 :=
  rfl

theorem maxValue_eq : Int64.maxValue.toInt = 2 ^ 63 - 1 :=
  rfl

theorem saturate_eq_self {value : Int} (lower : Int64.minValue.toInt ≤ value)
    (upper : value ≤ Int64.maxValue.toInt) : saturate value = value := by
  rw [saturate]
  omega

/-- A cursor goes to a position of its source or stays where it is. -/
theorem seek_cases (target : Target) (cursor : Cursor) :
    (∃ position ≤ cursor.length,
      seek target cursor = .ok position (cursor.moveTo position)) ∨
    seek target cursor =
      .error (.outOfRange (saturate (cursor.aim target)) cursor.length) cursor := by
  by_cases inside : 0 ≤ saturate (cursor.aim target) ∧
      saturate (cursor.aim target) ≤ cursor.length
  · exact .inl ⟨_, Int.toNat_le.mpr inside.2, if_pos inside⟩
  · exact .inr (if_neg inside)

/-- A target in the source is reached. -/
theorem seek_of_inside (short : cursor.length ≤ Int64.maxValue.toInt)
    (lower : 0 ≤ cursor.aim target) (upper : cursor.aim target ≤ cursor.length) :
    seek target cursor =
      .ok (cursor.aim target).toNat (cursor.moveTo (cursor.aim target).toNat) := by
  have least := minValue_eq
  have exact_goal : saturate (cursor.aim target) = cursor.aim target :=
    saturate_eq_self (by omega) (Int.le_trans upper short)
  simp only [seek, exact_goal, lower, upper, and_self, if_true]

/-- The offset by which an amount leads back. -/
theorem toInt_backOffset (amount : UInt64) :
    (Int64.ofInt (saturate (-amount.toNat))).toInt = -(min amount.toNat (2 ^ 63) : Nat) := by
  have least := minValue_eq
  have greatest := maxValue_eq
  have cut : saturate (-amount.toNat) = -(min amount.toNat (2 ^ 63) : Nat) := by
    rw [saturate]
    omega
  rw [cut, Int64.toInt_ofInt_of_le (by omega) (by omega)]

theorem aim_back (cursor : Cursor) (amount : UInt64) :
    cursor.aim (.fromHere (Int64.ofInt (saturate (-amount.toNat)))) =
      cursor.position - (min amount.toNat (2 ^ 63) : Nat) := by
  rw [aim, toInt_backOffset, Int.sub_eq_add_neg]

/-- Going back inside the source leads to the position that many characters in
front. -/
theorem back_of_inside (short : cursor.length ≤ Int64.maxValue.toInt)
    (inside : amount.toNat ≤ cursor.position) :
    back amount cursor =
      .ok (cursor.position - amount.toNat) (cursor.moveTo (cursor.position - amount.toNat)) := by
  have bound := cursor.position_le_length
  have greatest := maxValue_eq
  have goal : cursor.aim (.fromHere (Int64.ofInt (saturate (-amount.toNat)))) =
      (cursor.position - amount.toNat : Nat) := by
    rw [aim_back]
    omega
  rw [back, seek_of_inside short (by omega) (by omega), goal, Int.toNat_natCast]

end Inlay.Cursor
