import Inlay.Proofs.Duration.Cutting
import Mathlib.Data.List.Infix

/-!
# What normalizing leaves alone

A letter of a unit directly behind a digit makes a count.  Every duration literal
has a count, and a digit with a letter behind it is a literal itself, so a text
has a count exactly if something of it is rewritten.  What is written for a
duration has no letters; with every literal that is replaced some letters go, and
a text with a count does not stay as it is.

Normalizing once more changes nothing if normalizing has left no count.  Of the
text itself no digit is left with a letter behind it.  So a count can only be
made by the number that is written for a literal and a letter directly behind
the literal.
-/

namespace Inlay.Duration

/-! ## Counts -/

/-- The text begins with a letter of a unit. -/
def Lettered (text : Text) : Prop :=
  ∃ letter ∈ text.head?, letter ∈ unitLetters

/-- Somewhere in the text a letter of a unit stands directly behind a digit. -/
def Counted (text : Text) : Prop :=
  ∃ digit letter, digit.isDigit = true ∧ letter ∈ unitLetters ∧ [digit, letter] <:+: text

@[simp]
theorem not_lettered_nil : ¬ Lettered [] := by
  simp [Lettered]

@[simp]
theorem lettered_cons_iff {c : Char} {text : Text} : Lettered (c :: text) ↔ c ∈ unitLetters := by
  simp [Lettered]

theorem not_lettered_of_isDigit {c : Char} (digit : c.isDigit = true) (text : Text) :
    ¬ Lettered (c :: text) := by
  rw [lettered_cons_iff]
  intro letter
  simp [isDigit_of_mem_unitLetters letter] at digit

@[simp]
theorem not_counted_nil : ¬ Counted [] := by
  simp [Counted]

theorem counted_cons_iff {c : Char} {text : Text} :
    Counted (c :: text) ↔ (c.isDigit = true ∧ Lettered text) ∨ Counted text := by
  simp only [Counted, List.infix_cons_iff, List.cons_prefix_cons]
  constructor
  · rintro ⟨digit, letter, isDigit, member, ⟨rfl, starts⟩ | inside⟩
    · obtain ⟨rest, rfl⟩ := starts
      exact .inl ⟨isDigit, lettered_cons_iff.mpr member⟩
    · exact .inr ⟨digit, letter, isDigit, member, inside⟩
  · rintro (⟨isDigit, letter, first, member⟩ | ⟨digit, letter, isDigit, member, inside⟩)
    · obtain ⟨rest, rfl⟩ := List.head?_eq_some_iff.mp first
      exact ⟨c, letter, isDigit, member, .inl ⟨rfl, by simp⟩⟩
    · exact ⟨digit, letter, isDigit, member, .inr inside⟩

theorem Counted.of_infix {part text : Text} (counted : Counted part) (inside : part <:+: text) :
    Counted text := by
  rcases counted with ⟨digit, letter, isDigit, member, here⟩
  exact ⟨digit, letter, isDigit, member, here.trans inside⟩

theorem not_counted_of_unlettered {text : Text} (plain : ∀ c ∈ text, c ∉ unitLetters) :
    ¬ Counted text := by
  rintro ⟨digit, letter, _, member, inside⟩
  have here : letter ∈ text := inside.subset (by simp)
  exact plain letter here member

/-- Digits in front of a text make a count with a letter that comes next. -/
theorem counted_digits_append_iff {digits : Text} (nonempty : digits ≠ [])
    (all : ∀ c ∈ digits, c.isDigit = true) (text : Text) :
    Counted (digits ++ text) ↔ Lettered text ∨ Counted text := by
  induction digits with
  | nil => contradiction
  | cons c digits ih =>
      have digit : c.isDigit = true := all c List.mem_cons_self
      rw [List.cons_append, counted_cons_iff]
      cases digits with
      | nil => simp [digit]
      | cons d digits =>
          have next : d.isDigit = true := all d (by simp)
          have others := ih (by simp) fun e member => all e (List.mem_cons_of_mem c member)
          rw [others, List.cons_append]
          simp [not_lettered_of_isDigit next]

/-! ## Counts and literals -/

theorem Part.Valid.counted_written {part : Part} (valid : part.Valid) : Counted part.written := by
  obtain ⟨letter, rest, letters⟩ := part.unit.exists_letters
  have member : letter ∈ part.unit.letters := letters ▸ List.mem_cons_self
  rw [Part.written, counted_digits_append_iff valid.digits_ne_nil valid.isDigit, letters,
    lettered_cons_iff]
  exact .inl (mem_unitLetters_of_mem_letters member)

/-- A literal begins with its first part. -/
theorem Literal.exists_part {parts : List Part} {text : Text} (literal : Literal parts text) :
    ∃ part behind, Part.Valid part ∧ text = part.written ++ behind := by
  obtain ⟨part, others, rfl⟩ := List.exists_cons_of_ne_nil literal.parts_ne_nil
  obtain ⟨valid, _, _, behind, _, start, _⟩ := literal.form.row.first
  rw [Text.leading_eq_nil_iff.mp literal.leading_eq_nil] at start
  exact ⟨part, behind, valid, start⟩

theorem Literal.counted {parts : List Part} {text : Text} (literal : Literal parts text) :
    Counted text := by
  obtain ⟨part, behind, valid, rfl⟩ := literal.exists_part
  exact valid.counted_written.of_infix (List.prefix_append _ behind).isInfix

theorem Literal.not_lettered_append {parts : List Part} {text : Text}
    (literal : Literal parts text) (rest : Text) : ¬ Lettered (text ++ rest) := by
  obtain ⟨part, behind, valid, rfl⟩ := literal.exists_part
  obtain ⟨c, tail, written, digit⟩ := valid.exists_cons
  rw [written]
  exact not_lettered_of_isDigit digit _

/-- A digit with a letter behind it is a literal. -/
theorem exists_literal_of_count {digit letter : Char} (isDigit : digit.isDigit = true)
    (member : letter ∈ unitLetters) : ∃ parts, Literal parts [digit, letter] := by
  obtain ⟨unit, letters⟩ := exists_letters_eq_of_mem_unitLetters member
  have written : Part.written ⟨unit, [digit]⟩ = [digit, letter] := by
    rw [Part.written, letters]
    rfl
  have positive : 1 ≤ unit.maxDigits := by cases unit <;> decide
  have valid : Part.Valid ⟨unit, [digit]⟩ := ⟨by simp, positive, by simpa using isDigit⟩
  exact ⟨_, written ▸ valid.literal⟩

/-- Where no literal begins, no count does. -/
theorem not_lettered_of_not_literal {c : Char} {rest : Text}
    (none : ∀ parts written, Literal parts written → ¬ written <+: c :: rest)
    (digit : c.isDigit = true) : ¬ Lettered rest := by
  rintro ⟨letter, first, member⟩
  obtain ⟨tail, rfl⟩ := List.head?_eq_some_iff.mp first
  obtain ⟨parts, literal⟩ := exists_literal_of_count digit member
  exact none parts _ literal (by simp)

/-! ## Normalizing what was cut -/

/-- The piece after normalizing. -/
def Piece.normalized : Piece → Text
  | copied text => text
  | duration _ value => value.digits

theorem normalize_eq_flatMap (text : Text) :
    normalize text = (cut text).flatMap Piece.normalized := by
  have run (found : List Piece) :
      (Piece.rewriteAll (fun value => pure (digits value)) found).run () =
        (found.flatMap Piece.normalized, ()) := by
    induction found with
    | nil => rfl
    | cons piece found ih =>
        cases piece with
        | copied text =>
            rw [Piece.rewriteAll_copied]
            exact congrArg (fun behind => (text ++ behind.1, ())) ih
        | duration written value =>
            rw [Piece.rewriteAll_duration]
            exact congrArg (fun behind => (value.digits ++ behind.1, ())) ih
  have rewritten := rewriteWith_eq_cut (fun value => pure (digits value)) text ()
  rw [run] at rewritten
  exact congrArg Prod.fst rewritten

theorem isDigit_of_mem_digits {value : Duration} {c : Char} (member : c ∈ value.digits) :
    c.isDigit = true :=
  Nat.isDigit_of_mem_toDigits (by decide) (by decide) member

theorem digits_ne_nil (value : Duration) : value.digits ≠ [] :=
  Nat.toDigits_ne_nil

/-- Without a count a text stays as it is. -/
theorem Cuts.normalized_eq_self {text : Text} {found : List Piece} (cuts : Cuts text found)
    (plain : ¬ Counted text) : found.flatMap Piece.normalized = text := by
  induction cuts with
  | done => rfl
  | literal longest _ _ =>
      have counted := longest.literal.counted
      exact absurd (counted.of_infix (List.prefix_append _ _).isInfix) plain
  | @copied c rest later _ _ ih =>
      have others : ¬ Counted rest := fun counted => plain (counted_cons_iff.mpr (.inr counted))
      rw [List.flatMap_cons, ih others]
      rfl

/-- How many letters of units there are in a text. -/
def letterCount (text : Text) : Nat :=
  text.countP (· ∈ unitLetters)

theorem letterCount_digits (value : Duration) : letterCount value.digits = 0 := by
  rw [letterCount, List.countP_eq_zero]
  intro c member letter
  have digit := isDigit_of_mem_digits member
  simp [isDigit_of_mem_unitLetters (of_decide_eq_true letter)] at digit

theorem Counted.letterCount_pos {text : Text} (counted : Counted text) : 0 < letterCount text := by
  obtain ⟨digit, letter, _, member, inside⟩ := counted
  have here : letter ∈ text := inside.subset (by simp)
  exact List.countP_pos_iff.mpr ⟨letter, here, decide_eq_true member⟩

/-- With a count, normalizing takes letters away. -/
theorem Cuts.letterCount_normalized_lt {text : Text} {found : List Piece} (cuts : Cuts text found)
    (counted : Counted text) :
    letterCount (found.flatMap Piece.normalized) < letterCount text := by
  induction cuts with
  | done => exact absurd counted not_counted_nil
  | @literal parts written rest later longest others ih =>
      have here := longest.literal.counted.letterCount_pos
      have digits := letterCount_digits (ofParts parts)
      have behind : letterCount (later.flatMap Piece.normalized) ≤ letterCount rest := by
        by_cases countedBehind : Counted rest
        · exact (ih countedBehind).le
        · rw [others.normalized_eq_self countedBehind]
      simp only [letterCount, List.flatMap_cons, Piece.normalized, List.countP_append] at *
      omega
  | @copied c rest later none others ih =>
      rcases counted_cons_iff.mp counted with ⟨digit, letter⟩ | countedBehind
      · exact absurd letter (not_lettered_of_not_literal none digit)
      · have behind := ih countedBehind
        simp only [letterCount, List.flatMap_cons, Piece.normalized, List.singleton_append,
          List.countP_cons] at *
        omega

/-- Exactly the texts without a count stay as they are. -/
theorem normalize_eq_self_iff {text : Text} : normalize text = text ↔ ¬ Counted text := by
  rw [normalize_eq_flatMap]
  constructor
  · intro same counted
    have fewer := (cuts_cut text).letterCount_normalized_lt counted
    rw [same] at fewer
    exact Nat.lt_irrefl _ fewer
  · exact (cuts_cut text).normalized_eq_self

/-! ## Normalizing twice -/

theorem not_lettered_digits_append (value : Duration) (rest : Text) :
    ¬ Lettered (value.digits ++ rest) := by
  obtain ⟨c, tail, digits⟩ := List.exists_cons_of_ne_nil (digits_ne_nil value)
  have digit := isDigit_of_mem_digits (digits ▸ List.mem_cons_self)
  rw [digits]
  exact not_lettered_of_isDigit digit _

namespace Cuts

variable {text : Text} {found : List Piece}

/-- Normalizing neither puts a letter at the front nor takes one away there. -/
theorem lettered_normalized_iff (cuts : Cuts text found) :
    Lettered (found.flatMap Piece.normalized) ↔ Lettered text := by
  cases cuts with
  | done => rfl
  | literal longest _ =>
      have before := longest.literal.not_lettered_append
      have after := not_lettered_digits_append
      simp [Piece.normalized, before, after]
  | copied => simp [Piece.normalized]

/-- A count that normalizing leaves is the number written for a literal and the
letter directly behind the literal. -/
theorem counted_normalized_iff (cuts : Cuts text found) :
    Counted (found.flatMap Piece.normalized) ↔
      ∃ before written behind, Piece.Stands found before written behind ∧ Lettered behind := by
  induction cuts with
  | done => simp
  | @literal parts written rest later longest others ih =>
      rw [List.flatMap_cons, Piece.normalized, counted_digits_append_iff (digits_ne_nil _)
        (fun c => isDigit_of_mem_digits), others.lettered_normalized_iff, ih]
      simp only [Piece.stands_duration_iff, others.flatMap_source]
      constructor
      · rintro (letter | ⟨before, here, behind, stands, letter⟩)
        · exact ⟨[], written, rest, .inl ⟨rfl, rfl, rfl⟩, letter⟩
        · exact ⟨_, here, behind, .inr ⟨before, rfl, stands⟩, letter⟩
      · rintro ⟨_, here, behind, ⟨_, _, rfl⟩ | ⟨before, _, stands⟩, letter⟩
        · exact .inl letter
        · exact .inr ⟨before, here, behind, stands, letter⟩
  | @copied c rest later none others ih =>
      have apart : ¬ (c.isDigit = true ∧ Lettered rest) := by
        rintro ⟨digit, letter⟩
        exact not_lettered_of_not_literal none digit letter
      rw [List.flatMap_cons, Piece.normalized, List.singleton_append, counted_cons_iff,
        others.lettered_normalized_iff, or_iff_right apart, ih]
      simp only [Piece.stands_copied_iff]
      constructor
      · rintro ⟨before, here, behind, stands, letter⟩
        exact ⟨_, here, behind, ⟨before, rfl, stands⟩, letter⟩
      · rintro ⟨_, here, behind, ⟨before, _, stands⟩, letter⟩
        exact ⟨before, here, behind, stands, letter⟩

end Cuts

/-- Normalizing leaves a text as it is exactly if no letter of a unit stands
directly behind a digit in it, as in a text without such letters.  And
normalizing once more changes nothing exactly if no duration that is rewritten
has a letter directly behind it. -/
theorem normalizing_settles (text : Text) :
    (normalize text = text ↔ ¬ Counted text) ∧
      (normalize (normalize text) = normalize text ↔
        ∀ before written behind, Rewritten text before written behind → ¬ Lettered behind) ∧
      ((∀ c ∈ text, c ∉ unitLetters) → normalize text = text) := by
  refine ⟨normalize_eq_self_iff, ?_, ?_⟩
  · have counted := (cuts_cut text).counted_normalized_iff
    rw [← normalize_eq_flatMap] at counted
    rw [normalize_eq_self_iff, counted]
    simp only [rewritten_iff, not_exists, not_and]
  · intro plain
    exact normalize_eq_self_iff.mpr (not_counted_of_unlettered plain)

/-- A letter behind a literal makes a new count, which is normalized again. -/
example : normalize "1ss + 7".toList = "1000s + 7".toList ∧
    normalize "1000s + 7".toList = "100 + 7".toList := by
  decide +kernel

end Inlay.Duration
