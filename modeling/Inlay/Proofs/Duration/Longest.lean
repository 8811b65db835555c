import Inlay.Proofs.Duration.Taking

/-!
# The longest literal

At a text without blanks in front, what a completed match has written is a
duration literal, and no other one at the front of the text is longer.  Going
through the units leaves no more of a text behind than any row does: a part
that a row leaves out, but that is taken, makes the match longer, except where
the row goes on with milliseconds; and there completing makes up for the `s`.
-/

namespace Inlay.Duration

/-! ## Completing a row -/

/-- Where a row ends in minutes, an `s` makes them milliseconds. -/
theorem Row.complete {units : List TimeUnit} {parts : List Part} {text digits : Text}
    (order : units <:+ TimeUnit.all) (row : Row units parts text)
    (last : parts.getLast? = some ⟨.minute, digits⟩) (ends : text.trailing = []) :
    Row units (parts.dropLast ++ [⟨.millisecond, digits⟩]) (text ++ ['s']) := by
  induction row with
  | nil => simp at last
  | @absent unit later parts blanks text blank others ih =>
      have visible : text.isBlank = false := others.isBlank_eq_false_iff.mpr fun none => by
        simp [none] at last
      rw [Text.trailing_append_of_not_blank _ visible] at ends
      rw [List.append_assoc]
      exact .absent blank (ih ((List.suffix_cons _ _).trans order) last ends)
  | @present part later parts blanks text blank valid others ih =>
      cases parts with
      | nil =>
          have silent := others.isBlank_iff.mpr rfl
          rw [Text.trailing_append_of_isBlank _ silent, List.append_eq_nil_iff] at ends
          obtain rfl : part = ⟨.minute, digits⟩ := by simpa using last
          obtain rfl := TimeUnit.eq_smaller_of_suffix order
          have longer : Part.Valid ⟨.millisecond, digits⟩ :=
            ⟨valid.digits_ne_nil, Nat.le_succ_of_le valid.length_le, valid.isDigit⟩
          have last : Row [.millisecond] [⟨.millisecond, digits⟩] _ :=
            .present Text.isBlank_nil longer .nil
          have seconds : Row [.second, .millisecond] _ _ := .absent Text.isBlank_nil last
          have row : Row [.minute, .second, .millisecond] _ _ := .absent blank seconds
          simpa [ends.2, Part.written, TimeUnit.letters, TimeUnit.smaller] using row
      | cons next parts =>
          have visible : text.isBlank = false :=
            others.isBlank_eq_false_iff.mpr (List.cons_ne_nil next parts)
          rw [Text.trailing_append_of_not_blank _ visible] at ends
          rw [List.append_assoc, List.dropLast_cons_of_ne_nil (by simp), List.cons_append]
          exact .present blank valid
            (ih ((List.suffix_cons _ _).trans order) (by simpa using last) ends)

namespace Match

variable {units : List TimeUnit} {found : Match} {text : Text}

/-- Completing a match keeps it a row. -/
theorem row_completed (order : units <:+ TimeUnit.all)
    (row : Row units found.parts found.consumed) :
    Row units found.completed.parts found.completed.consumed := by
  simp only [completed]
  split
  · rename_i digits rest last ends follows
    have visible : found.consumed.isBlank = false :=
      row.isBlank_eq_false_iff.mpr fun none => by simp [none] at last
    rw [trail, Text.trailing_trimStart visible] at ends
    exact row.complete order last ends
  · exact row

/-- Either an `s` is moved into the match, or the match stays as it is. -/
theorem completed_cases (found : Match) :
    (∃ init digits rest, found.parts = init ++ [⟨.minute, digits⟩] ∧ found.trail = [] ∧
      found.rest = 's' :: rest ∧
      found.completed = ⟨init ++ [⟨.millisecond, digits⟩], found.consumed ++ ['s'], rest⟩) ∨
    ((∀ digits rest, found.parts.getLast? = some ⟨.minute, digits⟩ → found.trail = [] →
      found.rest ≠ 's' :: rest) ∧ found.completed = found) := by
  simp only [completed]
  split
  · rename_i digits rest last ends follows
    obtain ⟨init, parts⟩ := List.getLast?_eq_some_iff.mp last
    refine .inl ⟨init, digits, rest, parts, ends, follows, ?_⟩
    rw [parts, List.dropLast_concat]
  · rename_i differs
    exact .inr ⟨differs, rfl⟩

theorem completed_of_parts_eq_nil (none : found.parts = []) : found.completed = found := by
  simp [completed, none]

theorem length_rest_completed_le (found : Match) :
    found.completed.rest.length ≤ found.rest.length := by
  simp only [completed]
  split
  · rename_i follows
    simp [follows]
  · exact Nat.le_refl _

theorem getLast?_prepend (some : found.parts ≠ []) (text : Text) (parts : List Part) :
    (found.prepend text parts).parts.getLast? = found.parts.getLast? :=
  List.getLast?_append_of_ne_nil _ some

theorem trail_prepend (row : Row units found.parts found.consumed) (some : found.parts ≠ [])
    (text : Text) (parts : List Part) : (found.prepend text parts).trail = found.trail := by
  have visible : found.consumed.isBlank = false := row.isBlank_eq_false_iff.mpr some
  have visible' : (text ++ found.consumed).isBlank = false := by simp [visible]
  rw [trail, trail, Text.trailing_trimStart visible, prepend,
    Text.trailing_trimStart visible', Text.trailing_append_of_not_blank _ visible]

/-- What stands in front of parts has no bearing on completing them. -/
theorem completed_prepend (row : Row units found.parts found.consumed)
    (some : found.parts ≠ []) (text : Text) (parts : List Part) :
    (found.prepend text parts).completed = found.completed.prepend text parts := by
  rw [completed, completed, getLast?_prepend some, trail_prepend row some]
  simp only [prepend]
  split
  · simp [List.dropLast_append_of_ne_nil some]
  · rfl

/-- Blanks in front have no bearing on completing a match. -/
theorem completed_prepend_blanks (row : Row units found.parts found.consumed) (blanks : Text) :
    (found.prepend blanks []).completed = found.completed.prepend blanks [] := by
  by_cases none : found.parts = []
  · have none' : (found.prepend blanks []).parts = [] := by simp [prepend, none]
    rw [completed_of_parts_eq_nil none, completed_of_parts_eq_nil none']
  · exact completed_prepend row none blanks []

/-- With parts in front a match does not become shorter. -/
theorem length_rest_completed_prepend_le (row : Row units found.parts found.consumed)
    (text : Text) (parts : List Part) :
    (found.prepend text parts).completed.rest.length ≤ found.completed.rest.length := by
  by_cases none : found.parts = []
  · rw [completed_of_parts_eq_nil none]
    exact length_rest_completed_le (found.prepend text parts)
  · rw [completed_prepend row none]
    exact Nat.le_refl _

end Match

/-! ## No row leaves less behind -/

namespace Match

variable {units later : List TimeUnit} {text rest : Text}

theorem length_rest_completed_ofUnits_le (units : List TimeUnit) (text : Text) :
    (ofUnits units text).completed.rest.length ≤ text.length := by
  have whole := congrArg List.length (consumed_append_rest_ofUnits units text)
  have completing := length_rest_completed_le (ofUnits units text)
  rw [List.length_append] at whole
  omega

/-- Without the blanks in front no more is left behind. -/
theorem length_rest_completed_trimStart_le (units : List TimeUnit) (text : Text) :
    (ofUnits units text.trimStart).completed.rest.length ≤
      (ofUnits units text).completed.rest.length := by
  cases units with
  | nil => exact List.length_dropWhile_le Text.blank text
  | cons unit later =>
      rw [ofUnits_cons_eq_prepend unit later text,
        completed_prepend_blanks (row_ofUnits _ text.trimStart)]
      exact Nat.le_refl _

/-- Taking a part leaves no more behind than the smaller units do. -/
theorem length_rest_completed_le_of_some {unit : TimeUnit} {part : Part}
    (taken : takePart? unit text.trimStart = some (part, rest)) :
    (ofUnits (unit :: later) text).completed.rest.length ≤
      (ofUnits later rest).completed.rest.length := by
  rw [ofUnits_cons_of_some taken]
  exact length_rest_completed_prepend_le (row_ofUnits later rest) _ _

/-- Minutes with an `s` behind them become milliseconds. -/
theorem rest_completed_of_minute {part : Part} (minute : part.unit = .minute)
    (taken : takePart? .minute text.trimStart = some (part, 's' :: rest)) :
    (ofUnits (.minute :: later) text).completed.rest = rest := by
  rcases part with ⟨unit, digits⟩
  obtain rfl : unit = .minute := minute
  obtain ⟨_, valid, _⟩ := takePart?_eq_some_iff.mp taken
  have start := valid.trimStart_written_append []
  rw [List.append_nil] at start
  rw [ofUnits_cons_of_some taken, ofUnits_cons_of_visible (by decide) (by decide)]
  simp [prepend, completed, trail, Text.trimStart_append, start, Part.trailing_written]

end Match

namespace Row

variable {units later : List TimeUnit} {parts : List Part} {text behind : Text}

/-- Taking a part that a row leaves out leaves no more behind than the row. -/
theorem length_rest_completed_le_of_skipped {part : Part} {source rest : Text}
    (order : part.unit :: later <:+ TimeUnit.all) (row : Row later parts text)
    (taken : takePart? part.unit source.trimStart = some (part, rest))
    (start : source.trimStart = (text ++ behind).trimStart) :
    (Match.ofUnits (part.unit :: later) source).completed.rest.length ≤ behind.length := by
  obtain ⟨_, valid, front⟩ := takePart?_eq_some_iff.mp taken
  cases parts with
  | nil =>
      rw [start, Text.trimStart_append (row.isBlank_iff.mpr rfl)] at front
      calc
        (Match.ofUnits (part.unit :: later) source).completed.rest.length
            ≤ (Match.ofUnits later rest).completed.rest.length :=
          Match.length_rest_completed_le_of_some taken
        _ ≤ rest.length := Match.length_rest_completed_ofUnits_le later rest
        _ ≤ behind.trimStart.length := by simp [front]
        _ ≤ behind.length := List.length_dropWhile_le Text.blank behind
  | cons next parts =>
      have visible := row.isBlank_eq_false_iff.mpr (List.cons_ne_nil next parts)
      rw [start, Text.trimStart_append_of_not_blank visible] at front
      rcases row.eq_of_skipped order valid front with ⟨minute, _, _, rfl⟩
      rw [minute] at taken ⊢
      rw [Match.rest_completed_of_minute minute taken]

/-- Going through the units leaves no more behind than a row of them does. -/
theorem length_rest_completed_le (order : units <:+ TimeUnit.all) (row : Row units parts text) :
    (Match.ofUnits units (text ++ behind)).completed.rest.length ≤ behind.length := by
  induction row with
  | nil => exact Match.length_rest_completed_ofUnits_le [] behind
  | @absent unit later parts blanks text blank others ih =>
      have shorter := ih ((List.suffix_cons _ _).trans order)
      have start : (blanks ++ text ++ behind).trimStart = (text ++ behind).trimStart := by
        rw [List.append_assoc, Text.trimStart_append blank]
      cases taken : takePart? unit (text ++ behind).trimStart with
      | none =>
          rw [Match.ofUnits_cons_of_none (start ▸ taken), start,
            Match.completed_prepend_blanks (Match.row_ofUnits later _)]
          exact (Match.length_rest_completed_trimStart_le later _).trans shorter
      | some found =>
          rcases found with ⟨part, rest⟩
          rcases takePart?_eq_some_iff.mp taken with ⟨rfl, _⟩
          exact length_rest_completed_le_of_skipped order others (start ▸ taken) start
  | @present part later parts blanks text blank valid others ih =>
      have start : (blanks ++ part.written ++ text ++ behind).trimStart =
          part.written ++ (text ++ behind) := by
        simp only [List.append_assoc]
        rw [Text.trimStart_append blank, valid.trimStart_written_append]
      have taken := takePart?_eq_some_iff.mpr ⟨rfl, valid, start⟩
      exact (Match.length_rest_completed_le_of_some taken).trans
        (ih ((List.suffix_cons _ _).trans order))

end Row

end Inlay.Duration
