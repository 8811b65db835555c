import Inlay.Duration.Rewrite
import Mathlib.Data.List.Basic

/-!
# Matches and pieces cover the text

Nothing is lost or invented while a text is cut: a match and what follows it
are the text that was matched, and the pieces of a text in a row are the text.
-/

namespace Inlay.Duration

/-! ## Matches -/

theorem splitDigits_append (limit : Nat) (text : Text) :
    (splitDigits limit text).1 ++ (splitDigits limit text).2 = text := by
  induction limit generalizing text with
  | zero => simp [splitDigits]
  | succ limit ih =>
      cases text with
      | nil => simp [splitDigits]
      | cons c rest =>
          by_cases isDigit : c.isDigit
          · simp [splitDigits, isDigit, ih]
          · simp [splitDigits, isDigit]

/-- A part is taken as it is written. -/
theorem written_append_of_takePart? {unit : TimeUnit} {text rest : Text} {part : Part}
    (taken : takePart? unit text = some (part, rest)) : part.written ++ rest = text := by
  have whole := splitDigits_append unit.maxDigits text
  simp only [takePart?] at taken
  split at taken
  · simp at taken
  · obtain ⟨behind, letters, same⟩ := Option.map_eq_some_iff.mp taken
    obtain ⟨rfl, rfl⟩ := Prod.mk.inj same
    rw [List.isPrefixOf?_eq_some_iff_append_eq] at letters
    simpa [Part.written, letters] using whole

theorem Match.consumed_append_rest_ofUnits (units : List TimeUnit) (text : Text) :
    (ofUnits units text).consumed ++ (ofUnits units text).rest = text := by
  induction units generalizing text with
  | nil => simp [ofUnits]
  | cons unit later ih =>
      simp only [ofUnits]
      split
      · rename_i part rest taken
        simp [ih, written_append_of_takePart? taken]
      · simp [ih]

theorem Match.consumed_append_rest_initial (text : Text) :
    (initial text).consumed ++ (initial text).rest = text := by
  simp only [initial]
  split
  · rename_i part rest taken
    simp [consumed_append_rest_ofUnits, written_append_of_takePart? taken]
  · exact consumed_append_rest_ofUnits _ text

/-- Completing a match moves an `s` from what follows into the match. -/
theorem Match.consumed_append_rest_completed (found : Match) :
    found.completed.consumed ++ found.completed.rest = found.consumed ++ found.rest := by
  simp only [completed]
  split
  · rename_i follows
    simp [follows]
  · rfl

/-- A match and what follows it are the text. -/
@[simp]
theorem Match.consumed_append_rest_front (text : Text) :
    (front text).consumed ++ (front text).rest = text := by
  rw [front, consumed_append_rest_completed, consumed_append_rest_initial]

/-- The blanks around the parts and what is between them are the match. -/
@[simp]
theorem Match.lead_append_written_append_trail (found : Match) :
    found.lead ++ found.written ++ found.trail = found.consumed := by
  rw [lead, written, trail, Text.trim, List.append_assoc, Text.trimEnd_append_trailing,
    Text.leading_append_trimStart]

/-! ## Pieces -/

theorem Match.flatMap_source_pieces (found : Match) :
    found.pieces.flatMap Piece.source = found.consumed := by
  rw [pieces]
  split
  · simp [Piece.source]
  · simpa [Piece.source] using found.lead_append_written_append_trail

theorem flatMap_source_piecesUpTo {limit : Nat} {text : Text} (enough : text.length ≤ limit) :
    (piecesUpTo limit text).flatMap Piece.source = text := by
  induction limit generalizing text with
  | zero =>
      have empty : text = [] := List.length_eq_zero_iff.mp (Nat.le_zero.1 enough)
      simp [empty, piecesUpTo]
  | succ limit ih =>
      cases text with
      | nil => simp [piecesUpTo]
      | cons c rest =>
          have covers := Match.consumed_append_rest_front (c :: rest)
          simp only [List.length_cons, Nat.add_le_add_iff_right] at enough
          simp only [piecesUpTo]
          split
          · simp [Piece.source, ih enough]
          · rename_i progress
            have shorter : (Match.front (c :: rest)).rest.length ≤ limit := by
              have lengths := congrArg List.length covers
              rw [List.isEmpty_iff, ← List.length_eq_zero_iff] at progress
              simp only [List.length_append, List.length_cons] at lengths
              omega
            rw [List.flatMap_append, Match.flatMap_source_pieces, ih shorter, covers]

/-- The pieces of a text in a row are the text. -/
theorem flatMap_source_pieces (text : Text) : (pieces text).flatMap Piece.source = text :=
  flatMap_source_piecesUpTo (Nat.le_refl _)

end Inlay.Duration
