import Inlay.Proofs.Duration.Pattern

/-!
# Reading the groups of a match

A match of the pattern gives byte offsets only.  The counts are read from the
text between the offsets of the groups, and a count of minutes is one of
milliseconds when `ms` stands behind its digits and no smaller unit has a
group.  All offsets are character boundaries of the text, in order, and what is
read is what a completed match stands for, and where it ends.
-/

namespace Inlay

/-- The text between two byte offsets, if they are character boundaries in
order. -/
def Text.slice? (text : Text) (start stop : Nat) : Option Text := do
  let (upToStop, _) ← text.splitAtByte? stop
  let (_, slice) ← Text.splitAtByte? start upToStop
  some slice

theorem Text.slice?_eq_some {text before slice behind : Text}
    (parts : text = before ++ (slice ++ behind)) :
    text.slice? (byteLength before) (byteLength (before ++ slice)) = some slice := by
  have upToStop : text.splitAtByte? (byteLength (before ++ slice)) =
      some (before ++ slice, behind) :=
    splitAtByte?_eq_some_iff.mpr ⟨by rw [parts, List.append_assoc], rfl⟩
  have cut : splitAtByte? (byteLength before) (before ++ slice) = some (before, slice) :=
    splitAtByte?_eq_some_iff.mpr ⟨rfl, rfl⟩
  rw [slice?, upToStop]
  simp only [Option.bind_eq_bind, Option.bind_some, cut]

theorem Text.slice?_to_end {text before behind : Text} (parts : text = before ++ behind) :
    text.slice? (byteLength before) (byteLength text) = some behind := by
  rw [parts]
  exact slice?_eq_some (by rw [List.append_nil])

namespace Duration

/-! ## Counts -/

/-- The count of a unit: nothing where it has no part. -/
def countOf (parts : List Part) (unit : TimeUnit) : Nat :=
  ((parts.find? (·.unit = unit)).map fun part => decimal part.digits).getD 0

theorem countOf_eq_zero {parts : List Part} {unit : TimeUnit}
    (none : ∀ part ∈ parts, part.unit ≠ unit) : countOf parts unit = 0 := by
  have missing : parts.find? (·.unit = unit) = Option.none := by simpa using none
  simp [countOf, missing]

/-- The counts of the units added up. -/
def total (count : TimeUnit → Nat) : List TimeUnit → Nat
  | [] => 0
  | unit :: later => count unit * unit.milliseconds + total count later

theorem total_congr {count count' : TimeUnit → Nat} {units : List TimeUnit}
    (same : ∀ unit ∈ units, count unit = count' unit) : total count units = total count' units := by
  induction units with
  | nil => rfl
  | cons unit later ih =>
      rw [total, total, same unit List.mem_cons_self,
        ih fun unit member => same unit (List.mem_cons_of_mem _ member)]

/-- The parts of a row add up to its counts. -/
theorem milliseconds_ofParts {units : List TimeUnit} {parts : List Part} {text : Text}
    (distinct : units.Nodup) (row : Row units parts text) :
    (ofParts parts).milliseconds = total (countOf parts) units := by
  induction row with
  | nil => rfl
  | @absent unit later parts blanks text blank others ih =>
      rcases List.nodup_cons.mp distinct with ⟨outside, distinctLater⟩
      have none : countOf parts unit = 0 :=
        countOf_eq_zero fun part member same => outside (same ▸ others.unit_mem member)
      rw [total, none, Nat.zero_mul, Nat.zero_add, ih distinctLater]
  | @present part later parts blanks text blank valid others ih =>
      rcases List.nodup_cons.mp distinct with ⟨outside, distinctLater⟩
      have here : countOf (part :: parts) part.unit = decimal part.digits := by
        simp [countOf]
      have there : ∀ unit ∈ later, countOf (part :: parts) unit = countOf parts unit := by
        intro unit member
        have different : part.unit ≠ unit := fun same => outside (same ▸ member)
        simp [countOf, different]
      rw [total, here, total_congr there, ← ih distinctLater]
      rfl

theorem ofParts_eq {parts : List Part} {text : Text} (row : Row TimeUnit.all parts text) :
    ofParts parts = ⟨total (countOf parts) TimeUnit.all⟩ :=
  congrArg Duration.mk (milliseconds_ofParts (by decide) row)

theorem countOf_append_singleton {init : List Part} {unit : TimeUnit} {digits : Text}
    (different : ∀ part ∈ init, part.unit ≠ unit) (asked : TimeUnit) :
    countOf (init ++ [⟨unit, digits⟩]) asked =
      if unit = asked then decimal digits else countOf init asked := by
  by_cases same : unit = asked
  · have missing : init.find? (·.unit = asked) = none := by simpa [← same] using different
    simp [countOf, List.find?_append, missing, same]
  · simp [countOf, List.find?_append, same]

/-! ## Groups -/

/-- The count that a group gives: nothing where it has not matched. -/
def count? (source : Text) : Option Span → Option Nat
  | none => some 0
  | some span => (source.slice? span.start span.stop).map decimal

/-- The counts of all units. -/
def counts? (source : Text) (groups : TimeUnit → Option Span) : Option (TimeUnit → Nat) := do
  let days ← count? source (groups .day)
  let hours ← count? source (groups .hour)
  let minutes ← count? source (groups .minute)
  let seconds ← count? source (groups .second)
  let milliseconds ← count? source (groups .millisecond)
  some fun
    | .day => days
    | .hour => hours
    | .minute => minutes
    | .second => seconds
    | .millisecond => milliseconds

/-- The duration that a match stands for and the offset where its literal ends.
Minutes with `ms` behind their digits, and no smaller unit, are milliseconds. -/
def valueAndStop? (source : Text) (captures : Pattern.Captures TimeUnit) :
    Option (Duration × Nat) := do
  let count ← counts? source captures.groups
  match captures.groups .second, captures.groups .millisecond, captures.groups .minute with
  | none, none, some minute => do
      let behind ← source.slice? minute.stop source.byteLength
      if TimeUnit.millisecond.letters.isPrefixOf behind then
        let moved := Function.update (Function.update count .minute 0) .millisecond (count .minute)
        some (⟨total moved TimeUnit.all⟩, minute.stop + 2)
      else
        some (⟨total count TimeUnit.all⟩, captures.whole.stop)
  | _, _, _ => some (⟨total count TimeUnit.all⟩, captures.whole.stop)

variable {source : Text} {groups : TimeUnit → Option Span} {found : Match}

theorem count?_eq_some {unit : TimeUnit} (marks : Marks source groups found unit) :
    count? source (groups unit) = some (countOf found.parts unit) := by
  cases searched : found.parts.find? (·.unit = unit) with
  | none =>
      have missing : ∀ part ∈ found.parts, part.unit ≠ unit := by simpa using searched
      rw [marks.absent missing, countOf_eq_zero missing]
      rfl
  | some part =>
      have same : part.unit = unit := by simpa using List.find?_some searched
      obtain ⟨before, behind, whole, mark, _⟩ :=
        marks.present part (List.mem_of_find?_eq_some searched) same
      rw [List.append_assoc] at whole
      simp only [mark, count?, Text.slice?_eq_some whole, countOf, searched]
      rfl

theorem counts?_eq_some (marks : ∀ unit, Marks source groups found unit) :
    counts? source groups = some (countOf found.parts) := by
  simp only [counts?, count?_eq_some (marks _), Option.bind_eq_bind, Option.bind_some]
  congr 1
  funext unit
  cases unit <;> rfl

/-- With minutes moved to milliseconds, the counts are those of the completed
parts. -/
theorem update_countOf {init : List Part} {digits : Text}
    (larger : ∀ part ∈ init, TimeUnit.minute ∈ part.unit.smaller) :
    Function.update (Function.update (countOf (init ++ [⟨.minute, digits⟩])) .minute 0)
        .millisecond (countOf (init ++ [⟨.minute, digits⟩]) .minute) =
      countOf (init ++ [⟨.millisecond, digits⟩]) := by
  have minutes : ∀ part ∈ init, part.unit ≠ .minute := by
    intro part member same
    have smaller := larger part member
    simp [same, TimeUnit.smaller] at smaller
  have milliseconds : ∀ part ∈ init, part.unit ≠ .millisecond := by
    intro part member same
    have smaller := larger part member
    simp [same, TimeUnit.smaller] at smaller
  funext unit
  simp only [Function.update_apply, countOf_append_singleton minutes,
    countOf_append_singleton milliseconds]
  cases unit <;> simp [countOf_eq_zero minutes]

/-- Minutes with an `s` behind them are read as milliseconds. -/
theorem valueAndStop?_of_moved {before digits rest : Text} {init : List Part}
    {captures : Pattern.Captures TimeUnit} (row : Row TimeUnit.all found.parts found.consumed)
    (whole : source = before ++ (found.consumed ++ found.rest))
    (marks : ∀ unit, Marks source captures.groups found unit)
    (parts : found.parts = init ++ [⟨.minute, digits⟩]) (ends : found.trail = [])
    (follows : found.rest = 's' :: rest) :
    valueAndStop? source captures =
      some (⟨total (countOf (init ++ [⟨.millisecond, digits⟩])) TimeUnit.all⟩,
        Text.byteLength (before ++ (found.consumed ++ ['s']))) := by
  rw [parts] at row
  have larger : ∀ part ∈ init, TimeUnit.minute ∈ part.unit.smaller := by
    intro part member
    have pairs := (List.pairwise_append.mp (row.pairwise List.suffix_rfl)).2.2
    exact pairs part member _ List.mem_cons_self
  have last : found.parts.getLast? = some ⟨.minute, digits⟩ := by simp [parts]
  obtain ⟨inside, behind, split, mark, atEnd⟩ :=
    (marks .minute).present ⟨.minute, digits⟩ (List.mem_of_getLast? last) rfl
  obtain rfl : behind = 'm' :: 's' :: rest := by
    rw [atEnd last, ends, follows]
    rfl
  have missing : ∀ unit ∈ TimeUnit.smaller .minute, captures.groups unit = none := by
    intro unit smaller
    apply (marks unit).absent
    rw [parts]
    rintro part member rfl
    exact row.unit_not_mem_smaller List.suffix_rfl member smaller
  have seconds := missing .second (by decide)
  have milliseconds := missing .millisecond (by decide)
  have lengths := congrArg Text.byteLength (split.symm.trans whole)
  have stop : Text.byteLength (inside ++ digits) + 2 =
      Text.byteLength (before ++ (found.consumed ++ ['s'])) := by
    rw [follows] at lengths
    simp only [Text.byteLength_append, Text.byteLength_cons, Text.byteLength_nil] at lengths ⊢
    have one : 'm'.utf8Size = 1 := by decide
    have one' : 's'.utf8Size = 1 := by decide
    omega
  simp only [valueAndStop?, counts?_eq_some marks, Option.bind_eq_bind, Option.bind_some, seconds,
    milliseconds, mark, Text.slice?_to_end split]
  have front : TimeUnit.millisecond.letters.isPrefixOf ('m' :: 's' :: rest) = true := by
    simp [TimeUnit.letters]
  rw [if_pos front, parts, update_countOf larger, stop]

theorem not_isPrefixOf_of_differs {part : Part} (last : found.parts.getLast? = some part)
    (unit : part.unit = .minute)
    (differs : ∀ digits rest, found.parts.getLast? = some ⟨.minute, digits⟩ →
      found.trail = [] → found.rest ≠ 's' :: rest) :
    ¬ TimeUnit.millisecond.letters.isPrefixOf
      (TimeUnit.minute.letters ++ (found.trail ++ found.rest)) = true := by
  intro starts
  have blank : found.trail.isBlank = true := Text.isBlank_trailing _
  rcases part with ⟨kind, digits⟩
  obtain rfl : kind = .minute := unit
  rw [List.isPrefixOf_iff_prefix] at starts
  rcases starts with ⟨rest, starts⟩
  cases trail : found.trail with
  | nil =>
      apply differs digits rest last trail
      simpa [TimeUnit.letters, trail] using starts.symm
  | cons c others =>
      rw [trail] at starts blank
      rcases List.cons.inj (List.cons.inj starts).2 with ⟨rfl, _⟩
      simp [Text.blank] at blank

/-- Where no `s` stands behind minutes, all counts are read as they are. -/
theorem valueAndStop?_of_kept {captures : Pattern.Captures TimeUnit}
    (row : Row TimeUnit.all found.parts found.consumed)
    (marks : ∀ unit, Marks source captures.groups found unit)
    (differs : ∀ digits rest, found.parts.getLast? = some ⟨.minute, digits⟩ →
      found.trail = [] → found.rest ≠ 's' :: rest) :
    valueAndStop? source captures =
      some (⟨total (countOf found.parts) TimeUnit.all⟩, captures.whole.stop) := by
  simp only [valueAndStop?, counts?_eq_some marks, Option.bind_eq_bind, Option.bind_some]
  split
  · rename_i minute seconds milliseconds minutes
    have missing : ∀ part ∈ found.parts, part.unit ∉ TimeUnit.smaller .minute := by
      intro part member smaller
      rcases (marks part.unit).present part member rfl with ⟨_, _, _, mark, _⟩
      cases unit : part.unit <;> simp_all [TimeUnit.smaller]
    obtain ⟨part, member, unit⟩ : ∃ part ∈ found.parts, part.unit = .minute := by
      by_contra none
      simp only [not_exists, not_and] at none
      simp [(marks .minute).absent none] at minutes
    have last := row.getLast?_eq_some List.suffix_rfl member (unit ▸ missing)
    obtain ⟨inside, behind, whole, mark, atEnd⟩ := (marks .minute).present part member unit
    obtain rfl := Option.some.inj (minutes.symm.trans mark)
    have stays : ¬ TimeUnit.millisecond.letters.isPrefixOf behind = true := by
      rw [atEnd last, unit]
      exact not_isPrefixOf_of_differs last unit differs
    simp only [Text.slice?_to_end whole, Option.bind_some]
    rw [if_neg stays]
  · rfl

/-- What is read from the groups is what the completed match stands for, and
where it ends. -/
theorem valueAndStop?_eq_some {before : Text} {captures : Pattern.Captures TimeUnit}
    (row : Row TimeUnit.all found.parts found.consumed)
    (whole : source = before ++ (found.consumed ++ found.rest))
    (stop : captures.whole.stop = Text.byteLength (before ++ found.consumed))
    (marks : ∀ unit, Marks source captures.groups found unit) :
    valueAndStop? source captures =
      some (found.completed.duration,
        Text.byteLength (before ++ found.completed.consumed)) := by
  have completedRow := Match.row_completed List.suffix_rfl row
  rw [Match.duration, ofParts_eq completedRow]
  rcases found.completed_cases with
    ⟨init, digits, rest, parts, ends, follows, completed⟩ | ⟨differs, completed⟩
  · rw [completed]
    exact valueAndStop?_of_moved row whole marks parts ends follows
  · rw [completed, ← stop]
    exact valueAndStop?_of_kept row marks differs

end Duration

end Inlay
