import Inlay.Duration.Conservation
import Inlay.Proofs.Duration.Literal

/-!
# Taking parts

A part is taken from the front of a text exactly when a valid part of its unit
stands there.  Going through the units of a row takes a row of parts, and
completing it keeps it one: the part in minutes that becomes one in
milliseconds was the last.
-/

namespace Inlay.Duration

/-! ## One part -/

theorem splitDigits_append_of_stops {limit : Nat} {digits tail : Text}
    (all : ∀ c ∈ digits, c.isDigit = true) (short : digits.length ≤ limit)
    (stops : ∀ c ∈ tail.head?, c.isDigit = false) :
    splitDigits limit (digits ++ tail) = (digits, tail) := by
  induction digits generalizing limit with
  | nil =>
      cases limit with
      | zero => simp [splitDigits]
      | succ limit =>
          cases tail with
          | nil => simp [splitDigits]
          | cons c rest => simp [splitDigits, stops c rfl]
  | cons c digits ih =>
      cases limit with
      | zero => simp at short
      | succ limit =>
          have digit : c.isDigit = true := all c List.mem_cons_self
          have others := ih (fun d found => all d (List.mem_cons_of_mem c found))
            (Nat.le_of_succ_le_succ short)
          simp [splitDigits, digit, others]

theorem splitDigits_digits (limit : Nat) (text : Text) :
    (splitDigits limit text).1.length ≤ limit ∧
      ∀ c ∈ (splitDigits limit text).1, c.isDigit = true := by
  induction limit generalizing text with
  | zero => simp [splitDigits]
  | succ limit ih =>
      cases text with
      | nil => simp [splitDigits]
      | cons c rest =>
          by_cases digit : c.isDigit
          · simpa [splitDigits, digit] using ih rest
          · simp [splitDigits, digit]

/-- Just the valid parts of the unit at the front are taken. -/
theorem takePart?_eq_some_iff {unit : TimeUnit} {text rest : Text} {part : Part} :
    takePart? unit text = some (part, rest) ↔
      part.unit = unit ∧ part.Valid ∧ text = part.written ++ rest := by
  constructor
  · intro taken
    have whole := written_append_of_takePart? taken
    simp only [takePart?] at taken
    split at taken
    · simp at taken
    · rename_i found
      rcases Option.map_eq_some_iff.mp taken with ⟨behind, _, same⟩
      rcases Prod.mk.inj same with ⟨rfl, _⟩
      rcases splitDigits_digits unit.maxDigits text with ⟨short, all⟩
      exact ⟨rfl, ⟨by simpa using found, short, all⟩, whole.symm⟩
  · rintro ⟨rfl, valid, rfl⟩
    rcases part.unit.exists_letters with ⟨c, tail, letters⟩
    have stops : ∀ d ∈ (part.unit.letters ++ rest).head?, d.isDigit = false := by
      simpa [letters] using isDigit_of_mem_letters (letters ▸ List.mem_cons_self)
    have digits := splitDigits_append_of_stops valid.isDigit valid.length_le stops
    have front : part.unit.letters.isPrefixOf? (part.unit.letters ++ rest) = some rest :=
      List.isPrefixOf?_eq_some_iff_append_eq.2 rfl
    simp [takePart?, Part.written, digits, front, valid.digits_ne_nil]

/-- No part begins with a character that is not a digit. -/
theorem takePart?_cons_of_not_digit {unit : TimeUnit} {c : Char} (digit : c.isDigit = false)
    (rest : Text) : takePart? unit (c :: rest) = none := by
  cases taken : takePart? unit (c :: rest) with
  | none => rfl
  | some found =>
      rcases takePart?_eq_some_iff.mp taken with ⟨_, valid, whole⟩
      rcases valid.exists_cons with ⟨d, tail, written, isDigit⟩
      rw [written] at whole
      rcases List.cons.inj whole with ⟨rfl, _⟩
      simp [digit] at isDigit

namespace Match

/-! ## Rows of parts -/

/-- The match with parts and their text put in front. -/
def prepend (text : Text) (parts : List Part) (found : Match) : Match :=
  ⟨parts ++ found.parts, text ++ found.consumed, found.rest⟩

theorem ofUnits_cons_of_some {unit : TimeUnit} {later : List TimeUnit} {text rest : Text}
    {part : Part} (taken : takePart? unit text.trimStart = some (part, rest)) :
    ofUnits (unit :: later) text =
      (ofUnits later rest).prepend (text.leading ++ part.written) [part] := by
  simp [ofUnits, taken, prepend]

theorem ofUnits_cons_of_none {unit : TimeUnit} {later : List TimeUnit} {text : Text}
    (none : takePart? unit text.trimStart = none) :
    ofUnits (unit :: later) text = (ofUnits later text.trimStart).prepend text.leading [] := by
  simp [ofUnits, none, prepend]

/-- What is found is a row. -/
theorem row_ofUnits (units : List TimeUnit) (text : Text) :
    Row units (ofUnits units text).parts (ofUnits units text).consumed := by
  induction units generalizing text with
  | nil => exact .nil
  | cons unit later ih =>
      cases taken : takePart? unit text.trimStart with
      | none =>
          rw [ofUnits_cons_of_none taken]
          exact .absent (Text.isBlank_leading text) (ih text.trimStart)
      | some found =>
          rcases found with ⟨part, rest⟩
          rcases takePart?_eq_some_iff.mp taken with ⟨rfl, valid, _⟩
          rw [ofUnits_cons_of_some taken]
          exact .present (Text.isBlank_leading text) valid (ih rest)

/-- The leading blanks change nothing but what is consumed. -/
theorem ofUnits_cons_eq_prepend (unit : TimeUnit) (later : List TimeUnit) (text : Text) :
    ofUnits (unit :: later) text =
      (ofUnits (unit :: later) text.trimStart).prepend text.leading [] := by
  cases taken : takePart? unit text.trimStart with
  | none =>
      rw [ofUnits_cons_of_none taken, ofUnits_cons_of_none (by rwa [Text.trimStart_trimStart])]
      simp [prepend]
  | some found =>
      rcases found with ⟨part, rest⟩
      rw [ofUnits_cons_of_some taken, ofUnits_cons_of_some (by rwa [Text.trimStart_trimStart])]
      simp [prepend]

/-- Nothing is found at a character that is neither a digit nor blank. -/
theorem ofUnits_cons_of_visible {c : Char} (digit : c.isDigit = false)
    (visible : Text.blank c = false) (units : List TimeUnit) (rest : Text) :
    ofUnits units (c :: rest) = ⟨[], [], c :: rest⟩ := by
  have leading := Text.leading_cons_of_not_blank visible rest
  have trimmed := Text.leading_eq_nil_iff.mp leading
  induction units with
  | nil => rfl
  | cons unit later ih =>
      rw [ofUnits_cons_of_none (by rw [trimmed, takePart?_cons_of_not_digit digit]), trimmed, ih,
        leading]
      rfl

end Match

end Inlay.Duration
