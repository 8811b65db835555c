import Inlay.Proofs.Duration.Captures

/-!
# Texts that are one duration

A text stands for a duration if, without the blanks around it, it is a row of
parts.  The parts are determined by the text, and the longest literal at its
front, which is what is found there, has to be all of it.

The same is read from the byte offsets of the first match of the pattern, which
has to begin at the beginning and, with an `s` that completes it, to end at the
end.
-/

namespace Inlay.Duration

open Pattern (Captures Leftmost)

variable {text : Text} {parts : List Part}

/-! ## What is found in a trimmed text -/

/-- A trimmed text in the form of a literal is one if it has a part. -/
theorem Form.literal (form : Form parts text.trim) (some : parts ≠ []) :
    Literal parts text.trim where
  form := form
  parts_ne_nil := some
  leading_eq_nil := Text.leading_trim text
  trailing_eq_nil := Text.trailing_trim text

namespace Match

/-- Nothing is left behind a literal that is the whole text. -/
theorem rest_front_eq_nil (literal : Literal parts text) : (front text).rest = [] := by
  have short := length_rest_front_le [] literal
  rw [List.append_nil] at short
  exact List.length_eq_zero_iff.mp (Nat.le_zero.mp short)

/-- Where nothing is left, the text is a row of what was found. -/
theorem row_of_rest_eq_nil (ended : (front text).rest = []) :
    Row TimeUnit.all (front text).parts text := by
  have covers := consumed_append_rest_front text
  rw [ended, List.append_nil] at covers
  have row := row_front text
  rwa [covers] at row

/-- The parts of a literal are found if it is the whole text. -/
theorem parts_front_eq (literal : Literal parts text) : (front text).parts = parts :=
  (row_of_rest_eq_nil (rest_front_eq_nil literal)).parts_eq List.suffix_rfl literal.form.row rfl

end Match

/-- A text stands for a duration if it has the form of a literal and a part. -/
theorem parse?_eq_some_iff {value : Duration} :
    parse? text = some value ↔
      ∃ parts, Form parts text.trim ∧ parts ≠ [] ∧ value = ofParts parts := by
  simp only [parse?, Bool.or_eq_true, List.isEmpty_iff, Bool.not_eq_true',
    List.isEmpty_eq_false_iff]
  constructor
  · intro reads
    split at reads
    · contradiction
    · rename_i found
      rw [not_or, not_not] at found
      have row := Match.row_of_rest_eq_nil found.2
      exact ⟨_, row.form (Text.leading_trim text), found.1, (Option.some.inj reads).symm⟩
  · rintro ⟨parts, form, some, rfl⟩
    have literal := form.literal some
    have found := Match.parts_front_eq literal
    have ended := Match.rest_front_eq_nil literal
    rw [if_neg (by simp [found, ended, some]), Match.duration, found]

/-! ## Reading by byte offsets -/

/-- The duration in a text, from a match of the pattern in the trimmed text: the
match has to begin at the beginning and its literal to end at the end.  There is
no result when a slice is not between character boundaries in order. -/
def parseByOffsets? (text : Text) (found : Captures TimeUnit) : Option (Option Duration) :=
  if text.trim.isEmpty then
    some none
  else do
    let (value, stop) ← valueAndStop? text.trim found
    some (if found.whole.start ≠ 0 ∨ stop ≠ text.trim.byteLength then none else some value)

/-- In a trimmed text a literal that ends at the end has a part. -/
theorem Match.parts_ne_nil_of_rest_eq_nil (visible : text.trim ≠ [])
    (ended : (front text.trim).rest = []) : (front text.trim).parts ≠ [] := by
  intro none
  have blank := (row_of_rest_eq_nil ended).isBlank_iff.mpr none
  have trimmed := Text.leading_append_trimStart text.trim
  rw [Text.leading_trim, Text.trimStart_eq_nil_iff.mpr blank] at trimmed
  exact visible trimmed.symm

/-- The offsets of the first match give what is found at the front. -/
theorem parseByOffsets?_eq {captures : Captures TimeUnit} {behind : Text}
    (found : Leftmost pattern 0 text.trim captures behind) :
    parseByOffsets? text captures = some (parse? text) := by
  by_cases visible : text.trim = []
  · simp only [parseByOffsets?, parse?, visible]
    rfl
  obtain ⟨span, -, marks⟩ := @leftmost_pattern [] text.trim behind captures found
  have whole : text.trim =
      [] ++ ((Match.initial text.trim).consumed ++ (Match.initial text.trim).rest) :=
    (Match.consumed_append_rest_initial text.trim).symm
  have read : valueAndStop? text.trim captures =
      some ((Match.front text.trim).duration, Text.byteLength (Match.front text.trim).consumed) :=
    valueAndStop?_eq_some (Match.row_initial text.trim) whole (congrArg Span.stop span) marks
  have lengths := congrArg Text.byteLength (Match.consumed_append_rest_front text.trim)
  rw [Text.byteLength_append] at lengths
  have starts : captures.whole.start = 0 := congrArg Span.start span
  simp only [parseByOffsets?, parse?, List.isEmpty_iff, visible, if_false, read, starts,
    Option.bind_eq_bind, Option.bind_some]
  -- the literal ends at the end exactly if no byte is left behind it
  by_cases ended : (Match.front text.trim).rest = []
  · have some := Match.parts_ne_nil_of_rest_eq_nil visible ended
    rw [ended, Text.byteLength_nil, Nat.add_zero] at lengths
    simp [lengths, ended, some]
  · have behind : Text.byteLength (Match.front text.trim).rest ≠ 0 :=
      mt Text.byteLength_eq_zero_iff.mp ended
    have different : Text.byteLength (Match.front text.trim).consumed ≠
        Text.byteLength text.trim := by omega
    simp [different, ended]

/-! ## Counts -/

theorem ofParts_eq_of_form (form : Form parts text) :
    ofParts parts = ⟨countOf parts .day * 86400000 + countOf parts .hour * 3600000 +
      countOf parts .minute * 60000 + countOf parts .second * 1000 +
      countOf parts .millisecond⟩ := by
  rw [ofParts_eq form.row]
  simp only [total, TimeUnit.all, TimeUnit.belowDay, TimeUnit.milliseconds, Nat.mul_one,
    Nat.add_zero, Nat.add_assoc]

/-- Behind days and hours, milliseconds are the only other count. -/
theorem ofParts_append_milliseconds {larger : List Part} {digits : Text}
    (form : Form (larger ++ [⟨.millisecond, digits⟩]) text)
    (units : ∀ part ∈ larger, part.unit = .day ∨ part.unit = .hour) :
    ofParts (larger ++ [⟨.millisecond, digits⟩]) =
      ⟨countOf larger .day * 86400000 + countOf larger .hour * 3600000 + decimal digits⟩ := by
  have none : ∀ unit ∈ TimeUnit.smaller .hour, ∀ part ∈ larger, part.unit ≠ unit := by
    intro unit smaller part member
    rcases units part member with same | same <;> rw [same] <;> rintro rfl <;>
      simp [TimeUnit.smaller] at smaller
  have count (unit : TimeUnit) : countOf (larger ++ [⟨.millisecond, digits⟩]) unit =
      if .millisecond = unit then decimal digits else countOf larger unit :=
    countOf_append_singleton (none .millisecond (by decide)) unit
  have day := (count .day).trans (if_neg (by decide))
  have hour := (count .hour).trans (if_neg (by decide))
  have minute := ((count .minute).trans (if_neg (by decide))).trans
    (countOf_eq_zero (none .minute (by decide)))
  have second := ((count .second).trans (if_neg (by decide))).trans
    (countOf_eq_zero (none .second (by decide)))
  have millisecond := (count .millisecond).trans (if_pos rfl)
  have sum (days hours rest : Nat) : days * 86400000 + hours * 3600000 + 0 * 60000 + 0 * 1000 +
      rest = days * 86400000 + hours * 3600000 + rest := by omega
  rw [ofParts_eq_of_form form, day, hour, minute, second, millisecond, sum]

/-! ## Parsing decides the form -/

/-- A text stands for a duration if it has the form of a literal and a part, and
then for the sum of its counts in their units; there is but one way to see the
parts in it.  Behind days and hours a short count of milliseconds is not one of
minutes.  All this is what the byte offsets of the first match of the pattern
give. -/
theorem parse_decides_form (text : Text) :
    (∀ value, parse? text = some value ↔
      ∃ parts, Form parts text.trim ∧ parts ≠ [] ∧
        value = ⟨countOf parts .day * 86400000 + countOf parts .hour * 3600000 +
          countOf parts .minute * 60000 + countOf parts .second * 1000 +
          countOf parts .millisecond⟩) ∧
      (∀ parts parts', Form parts text.trim → Form parts' text.trim → parts = parts') ∧
      (∀ larger digits, Form (larger ++ [⟨.millisecond, digits⟩]) text.trim →
        (∀ part ∈ larger, part.unit = .day ∨ part.unit = .hour) →
        parse? text = some ⟨countOf larger .day * 86400000 + countOf larger .hour * 3600000 +
          decimal digits⟩) ∧
      (∃ captures behind, Leftmost pattern 0 text.trim captures behind) ∧
      ∀ captures behind, Leftmost pattern 0 text.trim captures behind →
        parseByOffsets? text captures = some (parse? text) := by
  refine ⟨?_, ?_, ?_, ?_, ?_⟩
  · intro value
    rw [parse?_eq_some_iff]
    constructor
    · rintro ⟨parts, form, some, rfl⟩
      exact ⟨parts, form, some, ofParts_eq_of_form form⟩
    · rintro ⟨parts, form, some, rfl⟩
      exact ⟨parts, form, some, (ofParts_eq_of_form form).symm⟩
  · intro parts parts' form form'
    exact form.row.parts_eq List.suffix_rfl form'.row rfl
  · intro larger digits form units
    rw [← ofParts_append_milliseconds form units]
    exact parse?_eq_some_iff.mpr ⟨_, form, by simp, rfl⟩
  · exact exists_leftmost_pattern [] text.trim
  · intro captures behind found
    exact parseByOffsets?_eq found

/-- A count of milliseconds with two digits behind a day, and an ideographic
space in front. -/
example : parse? ['\u3000', '1', 'd', ' ', '1', '0', 'm', 's', '\n'] = some ⟨86400010⟩ ∧
    parse? ['1', '0', 'm', ' ', 's'] = none := by
  decide +kernel

end Inlay.Duration
