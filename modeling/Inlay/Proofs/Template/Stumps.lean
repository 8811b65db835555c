import Inlay.Proofs.Template.Pieces

/-!
# Texts that break off

A text that is no row of pieces breaks off: behind some pieces it ends inside a
fragment, in its code or in its name, or behind an escape.  What is left there
is a stump, the beginning of a piece without the character that it waits for.

Every text either decomposes or breaks off, because the front of a text that is
not empty is a piece that fits there, or the text is a stump.
-/

namespace Inlay.Template

variable {delimiters : Delimiters} {text rest : Text}

/-- The beginning of a piece that the end of the text cuts short. -/
inductive Stump where
  /-- Code that is not closed. -/
  | code (text : Text)
  /-- The code inside a fragment, and a name that is not closed. -/
  | name (inside text : Text)
  /-- Units of literal text, and an escape with nothing behind it. -/
  | escape (units : List LiteralUnit)
  deriving DecidableEq

namespace Stump

/-- The stump as it stands in the text. -/
def written (delimiters : Delimiters) : Stump → Text
  | code text => delimiters.codeOpen :: text
  | name inside text =>
      delimiters.codeOpen :: inside ++ delimiters.codeClose :: delimiters.nameOpen :: text
  | escape units => LiteralUnit.writtenAll delimiters units ++ [delimiters.escape]

/-- The stump still waits for a character: what would close it has not come. -/
def Open (delimiters : Delimiters) : Stump → Prop
  | code text => delimiters.codeClose ∉ text
  | name inside text => delimiters.codeClose ∉ inside ∧ delimiters.nameClose ∉ text
  | escape units =>
      delimiters.escape ≠ delimiters.codeOpen ∧ ∀ unit ∈ units, unit.Valid delimiters

theorem written_ne_nil (delimiters : Delimiters) (stump : Stump) :
    stump.written delimiters ≠ [] := by
  cases stump <;> simp [written]

end Stump

/-! ## The front of a text -/

/-- A character has a first occurrence in a text, or none. -/
theorem first_occurrence (stop : Char) (text : Text) :
    stop ∉ text ∨ ∃ run rest, stop ∉ run ∧ text = run ++ stop :: rest := by
  by_cases member : stop ∈ text
  · rcases List.eq_append_cons_of_mem member with ⟨run, rest, split, absent⟩
    exact .inr ⟨run, rest, absent, split⟩
  · exact .inl member

/-- A text begins with the body of a fragment, or it ends inside one: its code
is not closed, or the name behind its code. -/
theorem body_or_unclosed (delimiters : Delimiters) (text : Text) :
    (∃ (fragment : Fragment) (rest : Text), fragment.Closed delimiters ∧
      fragment.EndsBefore delimiters rest ∧ text = fragment.body delimiters ++ rest) ∨
    delimiters.codeClose ∉ text ∨
    ∃ inside name, delimiters.codeClose ∉ inside ∧ delimiters.nameClose ∉ name ∧
      text = inside ++ delimiters.codeClose :: delimiters.nameOpen :: name := by
  rcases first_occurrence delimiters.codeClose text with absent | ⟨code, behind, absent, rfl⟩
  · exact .inr (.inl absent)
  · by_cases opened : behind.head? = some delimiters.nameOpen
    · obtain ⟨named, rfl⟩ := List.head?_eq_some_iff.mp opened
      rcases first_occurrence delimiters.nameClose named with
        nameAbsent | ⟨name, rest, nameAbsent, rfl⟩
      · exact .inr (.inr ⟨code, named, absent, nameAbsent, rfl⟩)
      · left
        refine ⟨⟨code, some name⟩, rest, ⟨absent, by simpa using nameAbsent⟩, ?_, ?_⟩
        · simp [Fragment.EndsBefore]
        · simp [Fragment.body, Fragment.writtenName]
    · left
      refine ⟨⟨code, none⟩, behind, ⟨absent, by simp⟩, fun _ => opened, ?_⟩
      simp [Fragment.body, Fragment.writtenName]

/-- Behind an opening delimiter stands a fragment, or the text ends inside
one. -/
theorem fragment_or_stump (delimiters : Delimiters) (text : Text) :
    (∃ (fragment : Fragment) (rest : Text), (Piece.code fragment).Fits delimiters rest ∧
      delimiters.codeOpen :: text = fragment.written delimiters ++ rest) ∨
    ∃ stump : Stump, stump.Open delimiters ∧
      delimiters.codeOpen :: text = stump.written delimiters := by
  rcases body_or_unclosed delimiters text with
    ⟨fragment, rest, closed, ends, rfl⟩ | absent | ⟨inside, name, absent, nameAbsent, rfl⟩
  · exact .inl ⟨fragment, rest, ⟨closed, ends⟩, rfl⟩
  · exact .inr ⟨.code text, absent, rfl⟩
  · exact .inr ⟨.name inside name, ⟨absent, nameAbsent⟩, rfl⟩

/-- Where no code is opened stands a literal, or the text ends behind an
escape. -/
theorem literal_or_stump (nonempty : text ≠ [])
    (noCode : text.head? ≠ some delimiters.codeOpen) :
    (∃ (units : List LiteralUnit) (rest : Text), (Piece.literal units).Fits delimiters rest ∧
      text = LiteralUnit.writtenAll delimiters units ++ rest) ∨
    ∃ stump : Stump, stump.Open delimiters ∧ text = stump.written delimiters := by
  have whole := LiteralUnit.writtenAll_split delimiters text
  have valid : ∀ unit ∈ (LiteralUnit.split delimiters text).1, unit.Valid delimiters :=
    fun _ member => LiteralUnit.valid_of_mem_split member
  rcases LiteralUnit.split_stops_or_escape delimiters text with stops | ⟨alone, closed⟩
  · refine .inl ⟨_, _, ⟨?_, valid, stops⟩, whole.symm⟩
    -- without units the text would be a stop of literal text
    intro empty
    rw [empty, LiteralUnit.writtenAll_nil, List.nil_append] at whole
    rw [whole] at stops
    exact stops.elim nonempty noCode
  · rw [alone] at whole
    exact .inr ⟨.escape _, ⟨closed, valid⟩, whole.symm⟩

/-- A text that is not empty begins with a piece that fits there, or is a
stump. -/
theorem piece_or_stump (delimiters : Delimiters) (nonempty : text ≠ []) :
    (∃ (piece : Piece) (rest : Text), piece.Fits delimiters rest ∧
      text = piece.written delimiters ++ rest) ∨
    ∃ stump : Stump, stump.Open delimiters ∧ text = stump.written delimiters := by
  by_cases opens : text.head? = some delimiters.codeOpen
  · obtain ⟨behind, rfl⟩ := List.head?_eq_some_iff.mp opens
    apply (fragment_or_stump delimiters behind).imp_left
    rintro ⟨fragment, rest, fits, same⟩
    exact ⟨.code fragment, rest, fits, same⟩
  · apply (literal_or_stump nonempty opens).imp_left
    rintro ⟨units, rest, fits, same⟩
    exact ⟨.literal units, rest, fits, same⟩

/-! ## Whole texts -/

/-- The text breaks off behind the pieces, each of which is in its place, and
what is left is the stump. -/
inductive BreaksOff (delimiters : Delimiters) : Text → List Piece → Stump → Prop
  | stump {stump : Stump} (waits : stump.Open delimiters) :
      BreaksOff delimiters (stump.written delimiters) [] stump
  | cons {piece : Piece} {rest : Text} {later : List Piece} {stump : Stump}
      (fits : piece.Fits delimiters rest) (more : BreaksOff delimiters rest later stump) :
      BreaksOff delimiters (piece.written delimiters ++ rest) (piece :: later) stump

theorem BreaksOff.ne_nil {pieces : List Piece} {stump : Stump}
    (breaks : BreaksOff delimiters text pieces stump) : text ≠ [] := by
  cases breaks with
  | stump => exact stump.written_ne_nil delimiters
  | cons fits => exact List.append_ne_nil_of_left_ne_nil (Piece.written_ne_nil fits) _

/-- Every text decomposes or breaks off, by induction on its length. -/
theorem decomposes_or_breaksOff (delimiters : Delimiters) (text : Text) :
    (∃ pieces, Decomposes delimiters text pieces) ∨
      ∃ pieces stump, BreaksOff delimiters text pieces stump := by
  induction length : text.length using Nat.strongRecOn generalizing text with
  | ind n ih =>
      by_cases nonempty : text = []
      · exact .inl ⟨[], nonempty ▸ .nil⟩
      rcases piece_or_stump delimiters nonempty with ⟨piece, rest, fits, rfl⟩ | ⟨stump, waits, rfl⟩
      · have shorter : rest.length < n := by
          have positive := List.length_pos_iff.mpr (Piece.written_ne_nil fits)
          rw [List.length_append] at length
          omega
        rcases ih rest.length shorter rest rfl with ⟨later, more⟩ | ⟨later, stump, more⟩
        · exact .inl ⟨piece :: later, more.cons fits⟩
        · exact .inr ⟨piece :: later, stump, more.cons fits⟩
      · exact .inr ⟨[], stump, .stump waits⟩

end Inlay.Template
