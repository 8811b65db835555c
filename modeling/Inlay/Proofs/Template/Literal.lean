import Inlay.Template.Literal

/-!
# Splitting literal text exactly

Which units may stand in literal text, and where literal text may stop, does
not depend on how a text is split.  Splitting finds just the valid units in
front of such a stop: written units are split off again, and whatever is split
off is valid.  The one text that does not stop properly is an escape alone.
-/

namespace Inlay.LiteralUnit

variable {delimiters : Delimiters}

/-- The unit may stand in literal text. -/
def Valid (delimiters : Delimiters) : LiteralUnit → Prop
  | plain c => c ≠ delimiters.codeOpen ∧ c ≠ delimiters.escape
  | escaped _ => delimiters.escape ≠ delimiters.codeOpen

/-- Literal text may stop in front of the rest: nothing follows, or code is
opened. -/
def Stops (delimiters : Delimiters) (rest : Text) : Prop :=
  rest = [] ∨ rest.head? = some delimiters.codeOpen

/-- Every unit is written with at least one character. -/
theorem length_le_length_writtenAll (delimiters : Delimiters) (units : List LiteralUnit) :
    units.length ≤ (writtenAll delimiters units).length := by
  induction units with
  | nil => simp
  | cons unit units ih => cases unit <;> simp [written] <;> omega

/-- Units written with one character each are plain. -/
theorem map_plain_meant_of_length_le {units : List LiteralUnit}
    (short : (writtenAll delimiters units).length ≤ units.length) :
    units.map (fun unit => plain unit.meant) = units := by
  induction units with
  | nil => rfl
  | cons unit units ih =>
      have others := length_le_length_writtenAll delimiters units
      cases unit with
      | plain c => simpa [meant] using ih (by simpa [written] using short)
      | escaped c =>
          simp only [writtenAll_cons, written, List.length_append, List.length_cons,
            List.length_nil] at short
          omega

/-! ## Splitting by the first unit -/

theorem split_of_stops {rest : Text} (stops : Stops delimiters rest) :
    split delimiters rest = ([], rest) := by
  match rest, stops with
  | [], _ => rfl
  | [c], stops =>
      have opens : c = delimiters.codeOpen := by simpa [Stops] using stops
      simp [split, opens]
  | c :: next :: rest, stops =>
      have opens : c = delimiters.codeOpen := by simpa [Stops] using stops
      simp [split, opens]

/-- An escape with nothing behind it is no unit. -/
theorem split_escape (delimiters : Delimiters) :
    split delimiters [delimiters.escape] = ([], [delimiters.escape]) := by
  simp [split]

theorem split_plain {c : Char} (valid : (plain c).Valid delimiters) (text : Text) :
    split delimiters (c :: text) =
      (plain c :: (split delimiters text).1, (split delimiters text).2) := by
  cases text with
  | nil => simp [split, valid.1, valid.2]
  | cons next rest => simp [split, valid.1, valid.2]

theorem split_escaped {c : Char} (valid : (escaped c).Valid delimiters) (text : Text) :
    split delimiters (delimiters.escape :: c :: text) =
      (escaped c :: (split delimiters text).1, (split delimiters text).2) := by
  have closed : delimiters.escape ≠ delimiters.codeOpen := valid
  simp [split, closed]

/-! ## Splitting what was written -/

@[simp]
theorem writtenAll_append (delimiters : Delimiters) (first second : List LiteralUnit) :
    writtenAll delimiters (first ++ second) =
      writtenAll delimiters first ++ writtenAll delimiters second :=
  List.flatMap_append

/-- Valid units are split off in front of whatever else is split off. -/
theorem split_writtenAll {units : List LiteralUnit}
    (valid : ∀ unit ∈ units, unit.Valid delimiters) (rest : Text) :
    split delimiters (writtenAll delimiters units ++ rest) =
      (units ++ (split delimiters rest).1, (split delimiters rest).2) := by
  induction units with
  | nil => rfl
  | cons unit units ih =>
      have later := ih fun other member => valid other (List.mem_cons_of_mem unit member)
      have here := valid unit List.mem_cons_self
      cases unit with
      | plain c => simp [written, split_plain here, later]
      | escaped c => simp [written, split_escaped here, later]

/-- Valid units are split off as they were written. -/
theorem split_writtenAll_append {units : List LiteralUnit} {rest : Text}
    (valid : ∀ unit ∈ units, unit.Valid delimiters) (stops : Stops delimiters rest) :
    split delimiters (writtenAll delimiters units ++ rest) = (units, rest) := by
  rw [split_writtenAll valid, split_of_stops stops, List.append_nil]

/-- Only valid units are split off. -/
theorem valid_of_mem_split {text : Text} {unit : LiteralUnit}
    (member : unit ∈ (split delimiters text).1) : unit.Valid delimiters := by
  fun_induction split delimiters text with
  | case1 => simp at member
  | case2 => simp at member
  | case3 c closed =>
      obtain rfl : unit = plain c := by simpa using member
      exact not_or.1 closed
  | case4 => simp at member
  | case5 next rest units tail same closed ih =>
      rcases List.mem_cons.mp member with rfl | member
      · exact closed
      · exact ih (by rwa [same])
  | case6 c next rest closed noEscape units tail same ih =>
      rcases List.mem_cons.mp member with rfl | member
      · exact ⟨closed, noEscape⟩
      · exact ih (by rwa [same])

/-- Behind the units that are split off, literal text stops, or an escape has
nothing to stand for. -/
theorem split_stops_or_escape (delimiters : Delimiters) (text : Text) :
    Stops delimiters (split delimiters text).2 ∨
      (split delimiters text).2 = [delimiters.escape] ∧
        delimiters.escape ≠ delimiters.codeOpen := by
  rcases split_stops delimiters text with ended | opens | alone
  · exact .inl (.inl ended)
  · exact .inl (.inr opens)
  · by_cases same : delimiters.escape = delimiters.codeOpen
    · exact .inl (.inr (by simp [alone, same]))
    · exact .inr ⟨alone, same⟩

end Inlay.LiteralUnit
