import Inlay.Duration.Basic
import Inlay.Proofs.Text.Trim

/-!
# Duration literals

A duration literal has at most one part of each unit, large units first.  Blanks
may stand between the parts, and nothing else.  A part is a short row of
decimal digits and the letters of its unit.

The grammar is ambiguous only as to which of the units that are left out have
blanks in front of them: the parts of a text are determined.  The letters
almost tell the units apart.  Minutes with an `s` behind them look like
milliseconds, but no literal goes on with that `s`.
-/

namespace Inlay.Duration

/-! ## Parts -/

/-- The count has a digit, and not more than its unit may have. -/
structure Part.Valid (part : Part) : Prop where
  digits_ne_nil : part.digits ≠ []
  length_le : part.digits.length ≤ part.unit.maxDigits
  isDigit : ∀ c ∈ part.digits, c.isDigit = true

theorem blank_of_isDigit {c : Char} (digit : c.isDigit = true) : Text.blank c = false := by
  simp only [Char.isDigit, Bool.and_eq_true, decide_eq_true_eq] at digit
  have lower : 48 ≤ c.toNat := digit.1
  have upper : c.toNat ≤ 57 := digit.2
  simp [Text.blank]
  omega

theorem isDigit_of_mem_letters {unit : TimeUnit} {c : Char} (letter : c ∈ unit.letters) :
    c.isDigit = false := by
  have all : unit.letters.all (fun c => !c.isDigit) = true := by cases unit <;> decide
  simpa using List.all_eq_true.1 all c letter

theorem blank_of_mem_letters {unit : TimeUnit} {c : Char} (letter : c ∈ unit.letters) :
    Text.blank c = false := by
  have all : unit.letters.all (fun c => !Text.blank c) = true := by cases unit <;> decide
  simpa using List.all_eq_true.1 all c letter

/-- The letters that units are written with. -/
def unitLetters : Text :=
  ['d', 'h', 'm', 's']

theorem mem_unitLetters_of_mem_letters {unit : TimeUnit} {c : Char} (letter : c ∈ unit.letters) :
    c ∈ unitLetters := by
  have all : unit.letters.all (fun c => c ∈ unitLetters) = true := by cases unit <;> decide
  simpa using List.all_eq_true.1 all c letter

/-- Every letter is all that some unit is written with. -/
theorem exists_letters_eq_of_mem_unitLetters {c : Char} (letter : c ∈ unitLetters) :
    ∃ unit : TimeUnit, unit.letters = [c] := by
  simp only [unitLetters, List.mem_cons, List.not_mem_nil, or_false] at letter
  rcases letter with rfl | rfl | rfl | rfl
  · exact ⟨.day, rfl⟩
  · exact ⟨.hour, rfl⟩
  · exact ⟨.minute, rfl⟩
  · exact ⟨.second, rfl⟩

theorem isDigit_of_mem_unitLetters {c : Char} (letter : c ∈ unitLetters) : c.isDigit = false := by
  obtain ⟨unit, letters⟩ := exists_letters_eq_of_mem_unitLetters letter
  have member : c ∈ unit.letters := letters ▸ List.mem_singleton_self c
  exact isDigit_of_mem_letters member

/-- The letters of a unit are not empty. -/
theorem TimeUnit.exists_letters (unit : TimeUnit) :
    ∃ c rest, unit.letters = c :: rest := by
  cases unit <;> exact ⟨_, _, rfl⟩

namespace Part

variable {part first second : Part} {rest behind : Text}

theorem isBlank_written (part : Part) : Text.isBlank part.written = false := by
  rcases part.unit.exists_letters with ⟨c, rest, letters⟩
  have visible : Text.blank c = false := blank_of_mem_letters (letters ▸ List.mem_cons_self)
  simp [written, letters, visible]

/-- A part does not end in a blank. -/
theorem trailing_written (part : Part) : Text.trailing part.written = [] := by
  obtain ⟨c, rest, letters⟩ : ∃ c rest, part.unit.letters.reverse = c :: rest := by
    cases part.unit <;> exact ⟨_, _, rfl⟩
  have last : c ∈ part.unit.letters := List.mem_reverse.1 (letters ▸ List.mem_cons_self)
  rw [Text.trailing_eq_reverse_leading, written, List.reverse_append, letters, List.cons_append,
    Text.leading_cons_of_not_blank (blank_of_mem_letters last), List.reverse_nil]

namespace Valid

/-- A part begins with a digit. -/
theorem exists_cons (valid : part.Valid) :
    ∃ c tail, part.written = c :: tail ∧ c.isDigit = true := by
  cases digits : part.digits with
  | nil => exact absurd digits valid.digits_ne_nil
  | cons c others =>
      refine ⟨c, others ++ part.unit.letters, by simp [written, digits], ?_⟩
      exact valid.isDigit c (digits ▸ List.mem_cons_self)

/-- A part does not begin with a blank. -/
theorem leading_written (valid : part.Valid) : Text.leading part.written = [] := by
  rcases valid.exists_cons with ⟨c, tail, written, digit⟩
  rw [written]
  exact Text.leading_cons_of_not_blank (blank_of_isDigit digit) tail

theorem trimStart_written_append (valid : part.Valid) (rest : Text) :
    Text.trimStart (part.written ++ rest) = part.written ++ rest := by
  rcases valid.exists_cons with ⟨c, tail, written, digit⟩
  rw [← Text.leading_eq_nil_iff, written, List.cons_append]
  exact Text.leading_cons_of_not_blank (blank_of_isDigit digit) _

/-- The digits of a part are all digits at the front of it. -/
theorem takeWhile_isDigit (valid : part.Valid) (rest : Text) :
    (part.written ++ rest).takeWhile Char.isDigit = part.digits := by
  rcases part.unit.exists_letters with ⟨c, tail, letters⟩
  have stops : c.isDigit = false := isDigit_of_mem_letters (letters ▸ List.mem_cons_self)
  rw [written, List.append_assoc, List.takeWhile_append_of_pos valid.isDigit, letters,
    List.cons_append, List.takeWhile_cons_of_neg (by simp [stops]), List.append_nil]

end Valid

/-- Two parts at the front of one text are the same one, unless one is in
minutes and the other in milliseconds. -/
theorem eq_or_of_written_append_eq (firstValid : first.Valid) (secondValid : second.Valid)
    (same : first.written ++ rest = second.written ++ behind) :
    (first = second ∧ rest = behind) ∨
      (first.digits = second.digits ∧ first.unit = .minute ∧ second.unit = .millisecond ∧
        rest = 's' :: behind) ∨
      (first.digits = second.digits ∧ first.unit = .millisecond ∧ second.unit = .minute ∧
        behind = 's' :: rest) := by
  have digits : first.digits = second.digits := by
    rw [← firstValid.takeWhile_isDigit rest, same, secondValid.takeWhile_isDigit]
  rcases first with ⟨unit, count⟩
  rcases second with ⟨unit', count'⟩
  obtain rfl : count = count' := digits
  simp only [written, List.append_assoc, List.append_cancel_left_eq] at same
  cases unit <;> cases unit' <;> simp_all [TimeUnit.letters]

end Part

/-! ## Rows of parts -/

/-- The units below a day, large ones first. -/
def TimeUnit.belowDay : List TimeUnit :=
  [.hour, .minute, .second, .millisecond]

/-- The units from a day down. -/
def TimeUnit.all : List TimeUnit :=
  .day :: belowDay

/-- The units that are smaller. -/
def TimeUnit.smaller : TimeUnit → List TimeUnit
  | day => belowDay
  | hour => [.minute, .second, .millisecond]
  | minute => [.second, .millisecond]
  | second => [.millisecond]
  | millisecond => []

theorem TimeUnit.eq_smaller_of_suffix {unit : TimeUnit} {later : List TimeUnit}
    (order : unit :: later <:+ all) : later = unit.smaller := by
  simp only [all, belowDay, List.suffix_cons_iff, List.suffix_nil, List.cons.injEq,
    reduceCtorEq, or_false] at order
  rcases order with ⟨rfl, rfl⟩ | ⟨rfl, rfl⟩ | ⟨rfl, rfl⟩ | ⟨rfl, rfl⟩ | ⟨rfl, rfl⟩ <;> rfl

theorem TimeUnit.not_mem_smaller_of_mem {unit other : TimeUnit} (member : other ∈ unit.smaller) :
    unit ∉ other.smaller := by
  cases unit <;> cases other <;> simp_all [smaller, belowDay]

/-- For each unit in turn blanks, and then a part of this unit or none. -/
inductive Row : List TimeUnit → List Part → Text → Prop where
  | nil : Row [] [] []
  | absent {unit : TimeUnit} {later : List TimeUnit} {parts : List Part} {blanks text : Text}
      (blank : Text.isBlank blanks = true) (others : Row later parts text) :
      Row (unit :: later) parts (blanks ++ text)
  | present {part : Part} {later : List TimeUnit} {parts : List Part} {blanks text : Text}
      (blank : Text.isBlank blanks = true) (valid : part.Valid) (others : Row later parts text) :
      Row (part.unit :: later) (part :: parts) (blanks ++ part.written ++ text)

namespace Row

variable {units later : List TimeUnit} {parts parts' : List Part} {text : Text}

/-- A row is blank just when it has no part. -/
theorem isBlank_iff (row : Row units parts text) : Text.isBlank text = true ↔ parts = [] := by
  induction row with
  | nil => simp
  | absent blank others ih => simp [blank, ih]
  | @present part later parts blanks text blank valid others ih =>
      simp [part.isBlank_written]

theorem isBlank_eq_false_iff (row : Row units parts text) :
    Text.isBlank text = false ↔ parts ≠ [] := by
  rw [Bool.eq_false_iff, Ne, row.isBlank_iff]

/-- The parts are in units of the row. -/
theorem unit_mem (row : Row units parts text) {part : Part} (member : part ∈ parts) :
    part.unit ∈ units := by
  induction row with
  | nil => simp at member
  | absent blank others ih => exact List.mem_cons_of_mem _ (ih member)
  | present blank valid others ih =>
      rcases List.mem_cons.mp member with rfl | member
      · exact List.mem_cons_self
      · exact List.mem_cons_of_mem _ (ih member)

/-- A row has blanks, digits and letters of units, and no other characters. -/
theorem mem_cases (row : Row units parts text) {c : Char} (member : c ∈ text) :
    Text.blank c = true ∨ c.isDigit = true ∨ c ∈ unitLetters := by
  have ofBlanks {blanks : Text} (blank : blanks.isBlank = true) (inside : c ∈ blanks) :
      Text.blank c = true := List.all_eq_true.mp blank c inside
  induction row with
  | nil => simp at member
  | absent blank _ ih =>
      rcases List.mem_append.mp member with inside | later
      · exact .inl (ofBlanks blank inside)
      · exact ih later
  | present blank valid _ ih =>
      rcases List.mem_append.mp member with front | later
      · rcases List.mem_append.mp front with inside | written
        · exact .inl (ofBlanks blank inside)
        · rcases List.mem_append.mp written with digit | letter
          · exact .inr (.inl (valid.isDigit c digit))
          · exact .inr (.inr (mem_unitLetters_of_mem_letters letter))
      · exact ih later

/-- Behind a part stand parts in smaller units. -/
theorem pairwise (order : units <:+ TimeUnit.all) (row : Row units parts text) :
    parts.Pairwise fun first second => second.unit ∈ first.unit.smaller := by
  induction row with
  | nil => exact .nil
  | absent blank others ih => exact ih ((List.suffix_cons _ _).trans order)
  | present blank valid others ih =>
      refine .cons ?_ (ih ((List.suffix_cons _ _).trans order))
      intro second member
      rw [← TimeUnit.eq_smaller_of_suffix order]
      exact others.unit_mem member

/-- No part is in a smaller unit than the last. -/
theorem unit_not_mem_smaller {init : List Part} {last part : Part}
    (order : units <:+ TimeUnit.all) (row : Row units (init ++ [last]) text)
    (member : part ∈ init ++ [last]) : part.unit ∉ last.unit.smaller := by
  rcases List.mem_append.mp member with front | here
  · have pairs := (List.pairwise_append.mp (row.pairwise order)).2.2
    exact TimeUnit.not_mem_smaller_of_mem (pairs part front last List.mem_cons_self)
  · rw [List.mem_singleton.mp here]
    intro self
    exact TimeUnit.not_mem_smaller_of_mem self self

/-- A part is the last if no part is in a smaller unit. -/
theorem getLast?_eq_some {part : Part} (order : units <:+ TimeUnit.all)
    (row : Row units parts text) (member : part ∈ parts)
    (missing : ∀ other ∈ parts, other.unit ∉ part.unit.smaller) :
    parts.getLast? = some part := by
  rcases List.append_of_mem member with ⟨init, later, rfl⟩
  cases later with
  | nil => simp
  | cons next later =>
      have pairs := (List.pairwise_append.mp (row.pairwise order)).2.1
      have smaller := (List.pairwise_cons.mp pairs).1 next List.mem_cons_self
      exact absurd smaller (missing next (by simp))

/-- The first part of a row stands behind the leading blanks, and a row of
smaller units stands behind it. -/
theorem first {part : Part} (row : Row units (part :: parts) text) :
    part.Valid ∧ ∃ before later behind, units = before ++ part.unit :: later ∧
      Text.trimStart text = part.written ++ behind ∧ Row later parts behind := by
  generalize named : part :: parts = all at row
  induction row with
  | nil => simp at named
  | @absent unit later parts blanks text blank others ih =>
      rcases ih named with ⟨valid, before, later', behind, order, front, row⟩
      refine ⟨valid, unit :: before, later', behind, by simp [order], ?_, row⟩
      rw [Text.trimStart_append blank, front]
  | @present part later parts blanks text blank valid others ih =>
      rcases List.cons.inj named with ⟨rfl, rfl⟩
      refine ⟨valid, [], later, text, rfl, ?_, others⟩
      rw [List.append_assoc, Text.trimStart_append blank, valid.trimStart_written_append]

/-- No row begins with a character that is neither a digit nor blank. -/
theorem not_cons {c : Char} {rest : Text} (digit : c.isDigit = false)
    (blank : Text.blank c = false) : ¬ Row units parts (c :: rest) := by
  intro row
  cases parts with
  | nil =>
      have allBlank := row.isBlank_iff.mpr rfl
      simp [blank] at allBlank
  | cons part parts =>
      rcases row.first with ⟨valid, before, later, behind, order, front, others⟩
      rcases valid.exists_cons with ⟨d, tail, written, isDigit⟩
      rw [Text.leading_eq_nil_iff.mp (Text.leading_cons_of_not_blank blank rest), written] at front
      rcases List.cons.inj front with ⟨rfl, _⟩
      simp [digit] at isDigit

/-- Where a part could have been taken and was left out, the part was in
minutes, and the row has but a part in milliseconds. -/
theorem eq_of_skipped {part next : Part} {rest behind : Text}
    (order : part.unit :: later <:+ TimeUnit.all) (valid : part.Valid)
    (row : Row later (next :: parts) text)
    (front : text.trimStart ++ behind = part.written ++ rest) :
    part.unit = .minute ∧ next = ⟨.millisecond, part.digits⟩ ∧ parts = [] ∧
      rest = 's' :: behind := by
  rcases row.first with ⟨nextValid, before, later', inner, smaller, inside, others⟩
  obtain rfl := TimeUnit.eq_smaller_of_suffix order
  rw [inside, List.append_assoc] at front
  rcases Part.eq_or_of_written_append_eq valid nextValid front.symm with
    ⟨rfl, _⟩ | ⟨digits, minute, millisecond, tail⟩ | ⟨_, millisecond, minute, _⟩
  · have member : part.unit ∈ part.unit.smaller := by simp [smaller]
    cases unit : part.unit <;> simp [unit, TimeUnit.smaller, TimeUnit.belowDay] at member
  · rw [minute, millisecond] at smaller
    have last : later' = [] := by
      rcases before with _ | ⟨_, _ | ⟨_, before⟩⟩ <;> simp_all [TimeUnit.smaller]
    subst last
    cases others
    rcases next with ⟨unit, count⟩
    exact ⟨minute, by simp_all, rfl, tail⟩
  · simp [millisecond, TimeUnit.smaller] at smaller

/-- One text is not a row both with a part taken in front and with that part
left out. -/
theorem ne_written_append {part : Part} {behind : Text}
    (order : part.unit :: later <:+ TimeUnit.all) (valid : part.Valid)
    (without : Row later parts text) (others : Row later parts' behind) :
    text.trimStart ≠ part.written ++ behind := by
  intro front
  cases parts with
  | nil =>
      have empty := Text.trimStart_eq_nil_iff.mpr (without.isBlank_iff.mpr rfl)
      rcases valid.exists_cons with ⟨c, tail, written, _⟩
      simp [empty, written] at front
  | cons next parts =>
      have skipped := eq_of_skipped order valid without (by rw [front, List.append_nil])
      exact absurd (skipped.2.2.2 ▸ others) (not_cons (by decide) (by decide))

/-- The parts of a row are determined by its text, blanks in front aside. -/
theorem parts_eq {text' : Text} (order : units <:+ TimeUnit.all) (row : Row units parts text)
    (other : Row units parts' text') (same : text.trimStart = text'.trimStart) :
    parts = parts' := by
  induction row generalizing parts' text' with
  | nil =>
      cases other
      rfl
  | @absent unit later parts blanks text blank others ih =>
      rw [Text.trimStart_append blank] at same
      cases other with
      | absent blank' others' =>
          rw [Text.trimStart_append blank'] at same
          exact ih ((List.suffix_cons _ _).trans order) others' same
      | present blank' valid others' =>
          rw [List.append_assoc, Text.trimStart_append blank', valid.trimStart_written_append]
            at same
          exact absurd same (ne_written_append order valid others others')
  | @present part later parts blanks text blank valid others ih =>
      rw [List.append_assoc, Text.trimStart_append blank, valid.trimStart_written_append] at same
      generalize named : part.unit = unit at other
      cases other with
      | absent blank' others' =>
          rw [Text.trimStart_append blank'] at same
          exact absurd same.symm (ne_written_append order valid others' others)
      | present blank' valid' others' =>
          rw [List.append_assoc, Text.trimStart_append blank', valid'.trimStart_written_append]
            at same
          rcases Part.eq_or_of_written_append_eq valid valid' same with
            ⟨rfl, rfl⟩ | ⟨_, minute, millisecond, _⟩ | ⟨_, millisecond, minute, _⟩
          · rw [ih ((List.suffix_cons _ _).trans order) others' rfl]
          · simp [minute, millisecond] at named
          · simp [minute, millisecond] at named

end Row

/-! ## Literals -/

/-- Perhaps a part in days, and then a row of parts in smaller units. -/
inductive Form : List Part → Text → Prop where
  | withoutDay {parts : List Part} {text : Text} (smaller : Row TimeUnit.belowDay parts text) :
      Form parts text
  | withDay {day : Part} {parts : List Part} {text : Text} (unit : day.unit = .day)
      (valid : day.Valid) (smaller : Row TimeUnit.belowDay parts text) :
      Form (day :: parts) (day.written ++ text)

/-- The text is a duration literal with the given parts. -/
structure Literal (parts : List Part) (text : Text) : Prop where
  form : Form parts text
  parts_ne_nil : parts ≠ []
  leading_eq_nil : text.leading = []
  trailing_eq_nil : text.trailing = []

/-- A text in the form of a literal is a row of all units. -/
theorem Form.row {parts : List Part} {text : Text} (form : Form parts text) :
    Row TimeUnit.all parts text := by
  cases form with
  | withoutDay smaller => exact .absent Text.isBlank_nil smaller
  | @withDay day parts text unit valid smaller =>
      have row : Row (day.unit :: TimeUnit.belowDay) (day :: parts) ([] ++ day.written ++ text) :=
        .present Text.isBlank_nil valid smaller
      rwa [unit, List.nil_append] at row

/-- A row of all units without blanks in front has the form of a literal. -/
theorem Row.form {parts : List Part} {text : Text} (row : Row TimeUnit.all parts text)
    (visible : text.leading = []) : Form parts text := by
  generalize units : TimeUnit.all = all at row
  cases row with
  | nil => simp [TimeUnit.all] at units
  | @absent _ _ _ blanks _ blank others =>
      rw [Text.leading_append blank, List.append_eq_nil_iff] at visible
      rcases List.cons.inj units with ⟨_, rfl⟩
      rw [visible.1]
      exact .withoutDay others
  | present blank valid others =>
      rw [List.append_assoc, Text.leading_append blank, List.append_eq_nil_iff] at visible
      rcases List.cons.inj units with ⟨unit, rfl⟩
      rw [visible.1]
      exact .withDay unit.symm valid others

/-- A text is a literal in one way at most. -/
theorem Literal.parts_eq {parts parts' : List Part} {text : Text} (first : Literal parts text)
    (second : Literal parts' text) : parts = parts' :=
  first.form.row.parts_eq List.suffix_rfl second.form.row rfl

theorem Literal.text_ne_nil {parts : List Part} {text : Text} (literal : Literal parts text) :
    text ≠ [] := by
  rintro rfl
  exact literal.parts_ne_nil (literal.form.row.isBlank_iff.mp rfl)

end Inlay.Duration
