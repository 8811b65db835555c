import Inlay.Proofs.Duration.Longest

/-!
# What is found at the front of a text

The parts found at the front of a text, with the blanks around them dropped,
are the longest duration literal behind the leading blanks.  A text at whose
front nothing is found begins with no literal.

What holds of the empty text, and of a text whenever it holds of what is left
behind its front, holds of every text.
-/

namespace Inlay.Duration

/-! ## Trimming a row -/

namespace Row

variable {units : List TimeUnit} {parts : List Part} {text : Text}

theorem empty (units : List TimeUnit) : Row units [] [] := by
  induction units with
  | nil => exact .nil
  | cons unit later ih => exact .absent Text.isBlank_nil ih

/-- A part alone is a row that leaves all other units out. -/
theorem single {part : Part} (valid : part.Valid) (member : part.unit ∈ units) :
    Row units [part] part.written := by
  induction units with
  | nil => simp at member
  | cons unit later ih =>
      by_cases here : part.unit = unit
      · have row := Row.present Text.isBlank_nil valid (empty later)
        rwa [here, List.nil_append, List.append_nil] at row
      · have others := ih ((List.mem_cons.mp member).resolve_left here)
        have row : Row (unit :: later) [part] ([] ++ part.written) :=
          .absent Text.isBlank_nil others
        exact row

theorem trimStart (row : Row units parts text) : Row units parts text.trimStart := by
  induction row with
  | nil => exact .nil
  | absent blank others ih =>
      rw [Text.trimStart_append blank]
      exact .absent Text.isBlank_nil ih
  | present blank valid others ih =>
      rw [List.append_assoc, Text.trimStart_append blank, valid.trimStart_written_append]
      exact .present Text.isBlank_nil valid others

theorem trimEnd (row : Row units parts text) : Row units parts text.trimEnd := by
  induction row with
  | nil => exact .nil
  | @absent unit later parts blanks text blank others ih =>
      cases silent : text.isBlank with
      | true =>
          have all : (blanks ++ text).isBlank = true := by simp [blank, silent]
          obtain rfl := others.isBlank_iff.mp silent
          rw [← List.nil_append (blanks ++ text), Text.trimEnd_append_of_isBlank [] all]
          exact empty (unit :: later)
      | false =>
          rw [Text.trimEnd_append_of_not_blank blanks silent]
          exact .absent blank ih
  | @present part later parts blanks text blank valid others ih =>
      cases silent : text.isBlank with
      | true =>
          obtain rfl := others.isBlank_iff.mp silent
          rw [Text.trimEnd_append_of_isBlank _ silent,
            Text.trimEnd_append_of_not_blank blanks part.isBlank_written,
            Text.trailing_eq_nil_iff.mp part.trailing_written,
            ← List.append_nil (blanks ++ part.written)]
          exact .present blank valid (empty later)
      | false =>
          rw [Text.trimEnd_append_of_not_blank _ silent]
          exact .present blank valid ih

end Row

/-- A literal remains of a row of all units that has a part. -/
theorem Row.literal_trim {parts : List Part} {text : Text} (row : Row TimeUnit.all parts text)
    (some : parts ≠ []) : Literal parts text.trim where
  form := row.trimStart.trimEnd.form (Text.leading_trim text)
  parts_ne_nil := some
  leading_eq_nil := Text.leading_trim text
  trailing_eq_nil := Text.trailing_trim text

/-- A part alone is a literal. -/
theorem Part.Valid.literal {part : Part} (valid : part.Valid) : Literal [part] part.written where
  form := by
    have all : part.unit ∈ TimeUnit.all := by cases part.unit <;> decide
    exact (Row.single valid all).form valid.leading_written
  parts_ne_nil := List.cons_ne_nil part []
  leading_eq_nil := valid.leading_written
  trailing_eq_nil := part.trailing_written

/-! ## Longest literals -/

/-- The written text is a literal, and no longer one begins the text that goes
on with the rest. -/
structure Longest (parts : List Part) (written rest : Text) : Prop where
  literal : Literal parts written
  length_le : ∀ {others : List Part} {other : Text}, Literal others other →
    other <+: written ++ rest → other.length ≤ written.length

/-- A literal does not end in one of the blanks behind a text. -/
theorem Literal.length_le_of_blanks {parts : List Part} {text written blanks : Text}
    (literal : Literal parts text) (blank : blanks.isBlank = true)
    (starts : text <+: written ++ blanks) : text.length ≤ written.length := by
  obtain ⟨behind, same⟩ := starts
  rcases List.append_eq_append_iff.mp same with ⟨between, rfl, _⟩ | ⟨extra, rfl, rfl⟩
  · rw [List.length_append]
    exact Nat.le_add_right _ _
  · have silent := Text.isBlank_of_prefix (List.prefix_append extra behind) blank
    have ends := literal.trailing_eq_nil
    rw [Text.trailing_append_of_isBlank _ silent, List.append_eq_nil_iff] at ends
    simp [ends.2]

/-- A text begins with one longest literal at most. -/
theorem Longest.unique {parts parts' : List Part} {written written' rest rest' : Text}
    (first : Longest parts written rest) (second : Longest parts' written' rest')
    (same : written ++ rest = written' ++ rest') :
    parts = parts' ∧ written = written' ∧ rest = rest' := by
  have le : written.length ≤ written'.length :=
    second.length_le first.literal ⟨rest, same⟩
  have ge : written'.length ≤ written.length :=
    first.length_le second.literal ⟨rest', same.symm⟩
  obtain ⟨rfl, rfl⟩ := List.append_inj same (Nat.le_antisymm le ge)
  exact ⟨first.literal.parts_eq second.literal, rfl, rfl⟩

namespace Match

variable {text : Text}

/-! ## One pass through all units -/

theorem initial_of_some {part : Part} {rest : Text}
    (taken : takePart? .day text = some (part, rest)) :
    initial text = (ofUnits TimeUnit.belowDay rest).prepend part.written [part] := by
  simp [initial, taken, prepend, TimeUnit.belowDay]

theorem initial_of_none (none : takePart? .day text = none) :
    initial text = ofUnits TimeUnit.belowDay text := by
  simp [initial, none, TimeUnit.belowDay]

theorem initial_eq_ofUnits (visible : text.leading = []) :
    initial text = ofUnits TimeUnit.all text := by
  have start := Text.leading_eq_nil_iff.mp visible
  cases taken : takePart? .day text with
  | none =>
      rw [initial_of_none taken, TimeUnit.all, ofUnits_cons_of_none (by rwa [start]), start,
        visible]
      rfl
  | some found =>
      rcases found with ⟨part, rest⟩
      rw [initial_of_some taken, TimeUnit.all, ofUnits_cons_of_some (by rwa [start]), visible]
      rfl

theorem row_initial (text : Text) :
    Row TimeUnit.all (initial text).parts (initial text).consumed := by
  cases taken : takePart? .day text with
  | none =>
      rw [initial_of_none taken]
      exact .absent Text.isBlank_nil (row_ofUnits TimeUnit.belowDay text)
  | some found =>
      rcases found with ⟨part, rest⟩
      rcases takePart?_eq_some_iff.mp taken with ⟨unit, valid, _⟩
      have row := Row.present Text.isBlank_nil valid (row_ofUnits TimeUnit.belowDay rest)
      rw [unit] at row
      rw [initial_of_some taken]
      exact row

/-- What is found at the front is a row of all units. -/
theorem row_front (text : Text) : Row TimeUnit.all (front text).parts (front text).consumed :=
  row_completed List.suffix_rfl (row_initial text)

/-- Where a part in days stands, no smaller unit does. -/
theorem parts_ofUnits_of_day {part : Part} {rest : Text}
    (taken : takePart? .day text = some (part, rest)) :
    (ofUnits TimeUnit.belowDay text).parts = [] := by
  obtain ⟨day, valid, whole⟩ := takePart?_eq_some_iff.mp taken
  have row := row_ofUnits TimeUnit.belowDay text
  have covers := consumed_append_rest_ofUnits TimeUnit.belowDay text
  cases parts : (ofUnits TimeUnit.belowDay text).parts with
  | nil => rfl
  | cons next others =>
      rw [parts] at row
      have visible := row.isBlank_eq_false_iff.mpr (List.cons_ne_nil next others)
      rcases row.first with ⟨nextValid, before, later, behind, order, inside, _⟩
      have front := congrArg Text.trimStart covers
      rw [Text.trimStart_append_of_not_blank visible, inside, whole,
        valid.trimStart_written_append, List.append_assoc] at front
      have member : next.unit ∈ TimeUnit.belowDay := by simp [order]
      rcases Part.eq_or_of_written_append_eq nextValid valid front with
        ⟨rfl, _⟩ | ⟨_, _, millisecond, _⟩ | ⟨_, _, minute, _⟩
      · simp [day, TimeUnit.belowDay] at member
      · simp [day] at millisecond
      · simp [day] at minute

/-- Parts behind blanks are found as they are without the blanks. -/
theorem front_eq_prepend (some : (front text).parts ≠ []) :
    front text = (front text.trimStart).prepend text.leading [] := by
  by_cases visible : text.leading = []
  · rw [Text.leading_eq_nil_iff.mp visible, visible]
    rfl
  · have here : takePart? .day text = none := by
      cases text with
      | nil => rfl
      | cons c rest =>
          refine takePart?_cons_of_not_digit (Bool.eq_false_iff.mpr fun digit => visible ?_) rest
          exact Text.leading_cons_of_not_blank (blank_of_isDigit digit) rest
    have front_eq : front text =
        (ofUnits TimeUnit.belowDay text.trimStart).completed.prepend text.leading [] := by
      rw [front, initial_of_none here, TimeUnit.belowDay, ofUnits_cons_eq_prepend,
        completed_prepend_blanks (row_ofUnits _ _)]
    cases taken : takePart? .day text.trimStart with
    | none => rw [front_eq, front, initial_of_none taken]
    | some found =>
        have none := parts_ofUnits_of_day taken
        rw [front_eq, completed_of_parts_eq_nil none] at some
        exact absurd none some

/-! ## Before and after completing -/

theorem parts_initial_eq_nil_iff : (initial text).parts = [] ↔ (front text).parts = [] := by
  rcases (initial text).completed_cases with
    ⟨init, digits, rest, parts, _, _, completed⟩ | ⟨_, completed⟩
  · simp [front, completed, parts]
  · rw [front, completed]

theorem consumed_initial_eq_nil_iff :
    (initial text).consumed = [] ↔ (front text).consumed = [] := by
  rcases (initial text).completed_cases with
    ⟨init, digits, rest, parts, _, _, completed⟩ | ⟨_, completed⟩
  · have some : (initial text).parts ≠ [] := by simp [parts]
    have visible := (row_initial text).isBlank_eq_false_iff.mpr some
    constructor
    · intro none
      simp [none] at visible
    · intro none
      simp [front, completed] at none
  · rw [front, completed]

theorem consumed_initial_prefix (text : Text) :
    (initial text).consumed <+: (front text).consumed := by
  rcases (initial text).completed_cases with
    ⟨init, digits, rest, _, _, _, completed⟩ | ⟨_, completed⟩
  · simp [front, completed]
  · simp [front, completed]

/-- Completing a match changes nothing about the blanks around its parts. -/
theorem blanks_initial (text : Text) :
    (initial text).lead = (front text).lead ∧ (initial text).trail = (front text).trail := by
  rcases (initial text).completed_cases with
    ⟨init, digits, rest, parts, ends, _, completed⟩ | ⟨_, completed⟩
  · have some : (initial text).parts ≠ [] := by simp [parts]
    have visible := (row_initial text).isBlank_eq_false_iff.mpr some
    have visible' : Text.isBlank ((initial text).consumed ++ ['s']) = false := by simp [visible]
    rw [front, completed, ends]
    constructor
    · exact (Text.leading_append_of_not_blank visible ['s']).symm
    · rw [trail, Text.trailing_trimStart visible',
        Text.trailing_append_of_not_blank _ (by decide)]
      rfl
  · rw [front, completed]
    exact ⟨rfl, rfl⟩

/-! ## The front and the literals there -/

/-- What is left behind is no longer than what stands behind a literal. -/
theorem length_rest_front_le {parts : List Part} {written : Text} (behind : Text)
    (literal : Literal parts written) :
    (front (written ++ behind)).rest.length ≤ behind.length := by
  have visible :=
    Text.leading_append_of_ne_nil literal.leading_eq_nil literal.text_ne_nil behind
  rw [front, initial_eq_ofUnits visible]
  exact literal.form.row.length_rest_completed_le List.suffix_rfl

/-- Where nothing is found, the text does not begin with a literal. -/
theorem not_prefix_of_consumed_eq_nil {parts : List Part} {written : Text}
    (none : (front text).consumed = []) (literal : Literal parts written) :
    ¬ written <+: text := by
  rintro ⟨behind, rfl⟩
  have shorter := length_rest_front_le behind literal
  have covers := consumed_append_rest_front (written ++ behind)
  rw [none, List.nil_append] at covers
  rw [covers, List.length_append] at shorter
  have some := List.length_pos_iff.mpr literal.text_ne_nil
  omega

/-- Behind the leading blanks stand the parts, the blanks behind them, and the
rest. -/
theorem trimStart_eq_of_parts_ne_nil (some : (front text).parts ≠ []) :
    text.trimStart = (front text).written ++ ((front text).trail ++ (front text).rest) := by
  have visible := (row_front text).isBlank_eq_false_iff.mpr some
  have start := congrArg Text.trimStart (consumed_append_rest_front text)
  rw [Text.trimStart_append_of_not_blank visible] at start
  rw [written, trail, Text.trim, ← List.append_assoc, Text.trimEnd_append_trailing, start]

/-- The parts that are found are the longest literal behind the leading
blanks. -/
theorem longest_front (some : (front text).parts ≠ []) :
    Longest (front text).parts (front text).written
      ((front text).trail ++ (front text).rest) where
  literal := (row_front text).literal_trim some
  length_le := by
    rintro others other literal ⟨behind, starts⟩
    rw [← trimStart_eq_of_parts_ne_nil some] at starts
    have shorter := length_rest_front_le behind literal
    have rest : (front text).rest = (front text.trimStart).rest := by
      rw [congrArg Match.rest (front_eq_prepend some)]
      rfl
    rw [starts, ← rest] at shorter
    rw [trimStart_eq_of_parts_ne_nil some] at starts
    have blanks : other <+: (front text).written ++ (front text).trail := by
      rw [← List.append_assoc] at starts
      apply List.prefix_of_prefix_length_le ⟨behind, starts⟩ ⟨_, rfl⟩
      have lengths := congrArg List.length starts
      rw [List.length_append, List.length_append] at lengths
      omega
    exact literal.length_le_of_blanks (Text.isBlank_trailing _) blanks

end Match

/-! ## Induction along what is found -/

theorem length_rest_front_lt {text : Text} (some : (Match.front text).consumed ≠ []) :
    (Match.front text).rest.length < text.length := by
  have lengths := congrArg List.length (Match.consumed_append_rest_front text)
  have positive := List.length_pos_iff.mpr some
  rw [List.length_append] at lengths
  omega

/-- What holds of every text whose first pieces leave a text behind of which it
holds, holds of every text. -/
theorem text_induction {motive : Text → Prop} (nil : motive [])
    (copied : ∀ c rest, (Match.front (c :: rest)).consumed = [] → motive rest →
      motive (c :: rest))
    (found : ∀ text, (Match.front text).consumed ≠ [] → motive (Match.front text).rest →
      motive text)
    (text : Text) : motive text := by
  induction bound : text.length using Nat.strongRecOn generalizing text with
  | ind length ih =>
      by_cases none : (Match.front text).consumed = []
      · cases text with
        | nil => exact nil
        | cons c rest => exact copied c rest none (ih rest.length (by simp [← bound]) rest rfl)
      · exact found text none (ih _ (bound ▸ length_rest_front_lt none) _ rfl)

end Inlay.Duration
