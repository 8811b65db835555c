import Inlay.Proofs.Duration.Front
import Inlay.Proofs.Pattern

/-!
# The pattern of written durations

Written durations are described by a pattern too: perhaps a part in days, and
then blanks and perhaps a part for each of the smaller units.  The digits of a
part are a group.

One pass through the units is the preferred way to match the pattern.  There is
nothing to come back to: a part that is taken is never given up, since all that
follows may be left out, and fewer digits than there are have no letters behind
them.
-/

namespace Inlay.Duration

open Pattern (Prefers ways Thread)

/-! ## Parts -/

/-- As many digits as the unit may have, in a group, and its letters. -/
def TimeUnit.pattern (unit : TimeUnit) : Pattern TimeUnit :=
  .seq
    (.group unit (.seq (.one Char.isDigit) (.upTo Char.isDigit (unit.maxDigits - 1))))
    (.word unit.letters)

/-- A part that can be taken is what its pattern prefers. -/
theorem prefers_part {part : Part} (valid : part.Valid) (offset : Nat) (rest : Text)
    (groups : TimeUnit → Option Span) :
    Prefers part.unit.pattern ⟨offset, part.written ++ rest, groups⟩
      ⟨offset + Text.byteLength part.written, rest,
        Function.update groups part.unit
          (some ⟨offset, offset + Text.byteLength part.digits⟩)⟩ := by
  obtain ⟨c, digits, count⟩ := List.exists_cons_of_ne_nil valid.digits_ne_nil
  rcases part.unit.exists_letters with ⟨d, tail, letters⟩
  have digit : c.isDigit = true := valid.isDigit c (count ▸ List.mem_cons_self)
  have short : digits.length ≤ part.unit.maxDigits - 1 := by
    have bound := valid.length_le
    rw [count, List.length_cons] at bound
    omega
  have stops : ∀ c ∈ (part.unit.letters ++ rest).head?, c.isDigit = false := by
    simpa [letters] using isDigit_of_mem_letters (letters ▸ List.mem_cons_self)
  have others := Pattern.prefers_upTo short
    (fun c found => valid.isDigit c (count ▸ List.mem_cons_of_mem _ found)) stops
    (offset + c.utf8Size) groups
  rw [Nat.add_assoc, ← Text.byteLength_cons, ← count] at others
  have counted : Prefers (.seq (.one Char.isDigit)
      (.upTo Char.isDigit (part.unit.maxDigits - 1))) ⟨offset, part.written ++ rest, groups⟩
      ⟨offset + Text.byteLength part.digits, part.unit.letters ++ rest, groups⟩ := by
    rw [Part.written, count, List.append_assoc, List.cons_append, ← count]
    exact (Prefers.one digit offset _ groups).seq others
  have lettered := Pattern.prefers_word part.unit.letters
    (offset + Text.byteLength part.digits) rest
    (Function.update groups part.unit (some ⟨offset, offset + Text.byteLength part.digits⟩))
  rw [Nat.add_assoc, ← Text.byteLength_append] at lettered
  exact counted.group.seq lettered

/-- Where no part can be taken, its pattern does not match in any way. -/
theorem ways_part_eq_nil {unit : TimeUnit} {text : Text} (none : takePart? unit text = none)
    (offset : Nat) (groups : TimeUnit → Option Span) :
    ways unit.pattern ⟨offset, text, groups⟩ = [] := by
  rw [List.eq_nil_iff_forall_not_mem]
  intro after way
  obtain ⟨between, counted, lettered⟩ := List.mem_flatMap.mp way
  obtain ⟨counted', inside, rfl⟩ := List.mem_map.mp counted
  obtain ⟨started, first, others⟩ := List.mem_flatMap.mp inside
  obtain ⟨c, digit, front⟩ := Pattern.exists_of_mem_ways_one first
  obtain ⟨digits, short, all, middle⟩ := Pattern.exists_append_of_mem_ways_upTo others
  have letters := Pattern.eq_append_of_mem_ways_word lettered
  have positive : 0 < unit.maxDigits := by cases unit <;> decide
  have valid : Part.Valid ⟨unit, c :: digits⟩ :=
    ⟨List.cons_ne_nil c digits, by simp only [List.length_cons]; omega, by simpa [digit] using all⟩
  have whole : text = Part.written ⟨unit, c :: digits⟩ ++ after.rest := by
    simp only [Thread.record] at letters
    rw [Part.written, List.append_assoc, ← letters, List.cons_append, ← middle]
    exact front
  have taken := takePart?_eq_some_iff.mpr ⟨rfl, valid, whole⟩
  simp [none] at taken

/-! ## Rows of parts -/

/-- For each unit in turn blanks, and then perhaps a part. -/
def rowPattern : List TimeUnit → Pattern TimeUnit
  | [] => .empty
  | unit :: later => .seq (.many Text.blank) (.seq (.optional unit.pattern) (rowPattern later))

/-- Perhaps a part in days, and then a row of parts in smaller units. -/
def pattern : Pattern TimeUnit :=
  .seq (.optional TimeUnit.day.pattern) (rowPattern TimeUnit.belowDay)

/-- The group of the unit is where the digits of the part in this unit stand,
if there is one.  Behind the last part stand the blanks and the rest. -/
structure Marks (source : Text) (groups : TimeUnit → Option Span) (found : Match)
    (unit : TimeUnit) : Prop where
  absent : (∀ part ∈ found.parts, part.unit ≠ unit) → groups unit = none
  present : ∀ part ∈ found.parts, part.unit = unit → ∃ before behind,
    source = before ++ part.digits ++ behind ∧
      groups unit = some ⟨Text.byteLength before, Text.byteLength (before ++ part.digits)⟩ ∧
      (found.parts.getLast? = some part →
        behind = part.unit.letters ++ (found.trail ++ found.rest))

namespace Marks

variable {source rest : Text} {groups : TimeUnit → Option Span} {found : Match}
  {unit : TimeUnit} {later : List TimeUnit}

/-- Parts of other units in front change no mark. -/
theorem prepend (row : Row later found.parts found.consumed)
    (marks : Marks source groups found unit) (text : Text) {parts : List Part}
    (others : ∀ part ∈ parts, part.unit ≠ unit) :
    Marks source groups (found.prepend text parts) unit where
  absent := by
    intro none
    exact marks.absent fun part member => none part (List.mem_append_right parts member)
  present := by
    intro part member same
    rcases List.mem_append.mp member with front | member
    · exact absurd same (others part front)
    · have some := List.ne_nil_of_mem member
      rw [Match.getLast?_prepend some, Match.trail_prepend row some]
      exact marks.present part member same

/-- A unit without a part has no mark. -/
theorem of_row (row : Row later found.parts found.consumed) (outside : unit ∉ later)
    (none : groups unit = none) : Marks source groups found unit where
  absent := fun _ => none
  present := fun _ member same => absurd (same ▸ row.unit_mem member) outside

/-- The mark of a part that is taken in front of smaller ones. -/
theorem of_taken {part : Part} {before : Text} (row : Row later found.parts found.consumed)
    (outside : part.unit ∉ later) (valid : part.Valid)
    (mark : groups part.unit =
      some ⟨Text.byteLength before, Text.byteLength (before ++ part.digits)⟩) :
    Marks (before ++ (part.written ++ (found.consumed ++ found.rest))) groups
      (found.prepend part.written [part]) part.unit where
  absent := fun none => absurd rfl (none part List.mem_cons_self)
  present := by
    intro part' member same
    rcases List.mem_cons.mp member with rfl | member
    · refine ⟨before, part'.unit.letters ++ (found.consumed ++ found.rest), ?_, mark, ?_⟩
      · simp [Part.written]
      · intro last
        have none : found.parts = [] := by
          by_contra some
          rw [Match.getLast?_prepend some] at last
          exact outside (row.unit_mem (List.mem_of_getLast? last))
        have trail : (found.prepend part'.written [part']).trail = found.consumed := by
          rw [Match.trail, Match.prepend, valid.trimStart_written_append,
            Text.trailing_append_of_isBlank _ (row.isBlank_iff.mpr none), part'.trailing_written,
            List.nil_append]
        rw [trail]
        rfl
    · exact absurd (same ▸ row.unit_mem member) outside

end Marks

/-- At a text with another one before it, the pattern prefers to match what is
found; the groups of the units mark it, and no other group changes. -/
def Finds (pattern : Pattern TimeUnit) (units : List TimeUnit) (before text : Text)
    (groups : TimeUnit → Option Span) (found : Match) : Prop :=
  ∃ groups', Prefers pattern ⟨Text.byteLength before, text, groups⟩
      ⟨Text.byteLength (before ++ found.consumed), found.rest, groups'⟩ ∧
    (∀ unit, unit ∉ units → groups' unit = groups unit) ∧
    ∀ unit ∈ units, Marks (before ++ text) groups' found unit

namespace Finds

variable {inner : Pattern TimeUnit} {units later : List TimeUnit} {unit : TimeUnit}
  {before text rest : Text} {groups : TimeUnit → Option Span} {found : Match}

/-- Blanks in front are found first. -/
theorem blanks (row : Row units found.parts found.consumed)
    (finds : Finds inner units (before ++ text.leading) text.trimStart groups found) :
    Finds (.seq (.many Text.blank) inner) units before text groups
      (found.prepend text.leading []) := by
  rcases finds with ⟨groups', preferred, others, marks⟩
  have blanks := Prefers.many Text.blank (Text.byteLength before) text groups
  rw [← Text.leading, ← Text.trimStart, ← Text.byteLength_append] at blanks
  rw [List.append_assoc, Text.leading_append_trimStart] at marks
  rw [List.append_assoc] at preferred
  refine ⟨groups', blanks.seq preferred, others, fun unit member => ?_⟩
  exact (marks unit member).prepend row text.leading (by simp)

/-- A unit is left out where it has no part. -/
theorem skipped (none : takePart? unit text = none) (outside : unit ∉ later)
    (fresh : groups unit = Option.none) (row : Row later found.parts found.consumed)
    (finds : Finds inner later before text groups found) :
    Finds (.seq (.optional unit.pattern) inner) (unit :: later) before text groups found := by
  rcases finds with ⟨groups', preferred, others, marks⟩
  refine ⟨groups', ?_, ?_, ?_⟩
  · exact (Prefers.optional_of_ways_eq_nil (ways_part_eq_nil none _ groups)).seq preferred
  · exact fun other missing => others other fun member =>
      missing (List.mem_cons_of_mem unit member)
  · intro other member
    rcases List.mem_cons.mp member with rfl | member
    · exact .of_row row outside ((others other outside).trans fresh)
    · exact marks other member

/-- A part that can be taken is found, and then what stands behind it. -/
theorem taken {part : Part} (valid : part.Valid) (outside : part.unit ∉ later)
    (row : Row later found.parts found.consumed) (covers : found.consumed ++ found.rest = rest)
    (finds : Finds inner later (before ++ part.written) rest
      (Function.update groups part.unit
        (some ⟨Text.byteLength before, Text.byteLength (before ++ part.digits)⟩)) found) :
    Finds (.seq (.optional part.unit.pattern) inner) (part.unit :: later) before
      (part.written ++ rest) groups (found.prepend part.written [part]) := by
  rcases finds with ⟨groups', preferred, others, marks⟩
  have part_preferred := prefers_part valid (Text.byteLength before) rest groups
  rw [← Text.byteLength_append, ← Text.byteLength_append] at part_preferred
  rw [List.append_assoc] at preferred marks
  refine ⟨groups', (Prefers.optional_of part_preferred).seq preferred, ?_, ?_⟩
  · intro other missing
    rw [List.mem_cons, not_or] at missing
    rw [others other missing.2, Function.update_of_ne missing.1]
  · intro other member
    rcases List.mem_cons.mp member with rfl | member
    · rw [← covers]
      exact .of_taken row outside valid
        ((others part.unit outside).trans (Function.update_self _ _ _))
    · apply (marks other member).prepend row part.written
      intro front found
      rw [List.mem_singleton.mp found]
      exact fun same => outside (same ▸ member)

end Finds

/-- Going through the units is what the pattern of the row prefers. -/
theorem finds_row (units : List TimeUnit) (distinct : units.Nodup) (before text : Text)
    (groups : TimeUnit → Option Span) (fresh : ∀ unit ∈ units, groups unit = none) :
    Finds (rowPattern units) units before text groups (Match.ofUnits units text) := by
  induction units generalizing before text groups with
  | nil =>
      refine ⟨groups, ?_, fun _ _ => rfl, by simp⟩
      rw [Match.ofUnits, List.append_nil]
      exact .empty _
  | cons unit later ih =>
      rcases List.nodup_cons.mp distinct with ⟨outside, distinctLater⟩
      rcases List.forall_mem_cons.mp fresh with ⟨freshHere, freshLater⟩
      cases taken : takePart? unit text.trimStart with
      | none =>
          have row := Match.row_ofUnits later text.trimStart
          rw [Match.ofUnits_cons_of_none taken]
          refine .blanks (.absent Text.isBlank_nil row) (.skipped taken outside freshHere row ?_)
          exact ih distinctLater _ text.trimStart groups freshLater
      | some found =>
          rcases found with ⟨part, rest⟩
          rcases takePart?_eq_some_iff.mp taken with ⟨rfl, valid, front⟩
          have row := Match.row_ofUnits later rest
          have prepended : Match.ofUnits (part.unit :: later) text =
              ((Match.ofUnits later rest).prepend part.written [part]).prepend text.leading [] := by
            rw [Match.ofUnits_cons_of_some taken]
            simp [Match.prepend]
          rw [prepended]
          apply Finds.blanks (.present Text.isBlank_nil valid row)
          rw [front]
          apply Finds.taken valid outside row (Match.consumed_append_rest_ofUnits later rest)
          apply ih distinctLater
          intro other member
          have different : other ≠ part.unit := by
            rintro rfl
            exact outside member
          rw [Function.update_of_ne different]
          exact freshLater other member

/-- One pass through the units is what the pattern prefers. -/
theorem finds_initial (before text : Text) :
    Finds pattern TimeUnit.all before text (fun _ => none) (Match.initial text) := by
  have distinct : TimeUnit.belowDay.Nodup := by decide
  have outside : TimeUnit.day ∉ TimeUnit.belowDay := by decide
  cases taken : takePart? .day text with
  | none =>
      rw [Match.initial_of_none taken]
      exact .skipped taken outside rfl (Match.row_ofUnits _ text)
        (finds_row _ distinct before text _ fun _ _ => rfl)
  | some found =>
      rcases found with ⟨part, rest⟩
      rcases takePart?_eq_some_iff.mp taken with ⟨day, valid, rfl⟩
      rw [Match.initial_of_some taken, pattern, TimeUnit.all, ← day]
      refine .taken valid (day ▸ outside) (Match.row_ofUnits _ rest)
        (Match.consumed_append_rest_ofUnits _ rest) (finds_row _ distinct _ rest _ ?_)
      intro unit member
      have different : unit ≠ part.unit := by
        rintro rfl
        exact outside (day ▸ member)
      rw [Function.update_of_ne different]

/-- The match at a position is what is found there, and its groups mark the
parts. -/
theorem leftmost_pattern {before text behind : Text} {captures : Pattern.Captures TimeUnit}
    (found : Pattern.Leftmost pattern (Text.byteLength before) text captures behind) :
    captures.whole =
        ⟨Text.byteLength before, Text.byteLength (before ++ (Match.initial text).consumed)⟩ ∧
      behind = (Match.initial text).rest ∧
      ∀ unit, Marks (before ++ text) captures.groups (Match.initial text) unit := by
  obtain ⟨groups, preferred, _, marks⟩ := finds_initial before text
  obtain ⟨rfl, rfl⟩ := found.eq_of_prefers preferred
  exact ⟨rfl, rfl, fun unit => marks unit (by cases unit <;> decide)⟩

/-- There is a match at every position. -/
theorem exists_leftmost_pattern (before text : Text) :
    ∃ captures behind,
      Pattern.Leftmost pattern (Text.byteLength before) text captures behind := by
  obtain ⟨groups, preferred, _⟩ := finds_initial before text
  exact ⟨_, _, .here preferred⟩

end Inlay.Duration
