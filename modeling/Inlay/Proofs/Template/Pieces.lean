import Inlay.Proofs.Template.Literal
import Inlay.Template.Segment

/-!
# The grammar of template text

Template text is a row of pieces.  A literal piece is a row of units and ends
where code is opened or the text ends.  A code piece is written with its code
and, if it has one, its name; neither contains the character that ends it, and
a name that opens directly behind the code belongs to the piece.

`Decomposes` is the grammar.  It refers to no way of reading: it says which
rows of pieces are a text, and a piece says which segment it stands for.
-/

namespace Inlay

namespace Fragment

/-- Neither the code nor the name contains the character that ends it. -/
structure Closed (delimiters : Delimiters) (fragment : Fragment) : Prop where
  code : delimiters.codeClose ∉ fragment.code
  name : ∀ name, fragment.name = some name → delimiters.nameClose ∉ name

/-- A fragment without a name does not stand in front of the character that
opens one. -/
def EndsBefore (delimiters : Delimiters) (fragment : Fragment) (rest : Text) : Prop :=
  fragment.name = none → rest.head? ≠ some delimiters.nameOpen

/-- Template text for the fragment behind its opening delimiter. -/
def body (delimiters : Delimiters) (fragment : Fragment) : Text :=
  fragment.code ++ delimiters.codeClose :: writtenName delimiters fragment.name

end Fragment

namespace Template

/-- A piece of template text. -/
inductive Piece where
  | literal (units : List LiteralUnit)
  | code (fragment : Fragment)
  deriving DecidableEq

namespace Piece

/-- The piece as it stands in the text. -/
def written (delimiters : Delimiters) : Piece → Text
  | literal units => LiteralUnit.writtenAll delimiters units
  | code fragment => fragment.written delimiters

/-- The segment that the piece stands for. -/
def segment : Piece → Segment
  | literal units => .literal (units.map LiteralUnit.meant)
  | code fragment => .code fragment

/-- The piece may stand in front of the rest of a text. -/
def Fits (delimiters : Delimiters) (rest : Text) : Piece → Prop
  | literal units =>
      units ≠ [] ∧ (∀ unit ∈ units, unit.Valid delimiters) ∧ LiteralUnit.Stops delimiters rest
  | code fragment => fragment.Closed delimiters ∧ fragment.EndsBefore delimiters rest

/-- No piece is empty. -/
theorem written_ne_nil {delimiters : Delimiters} {rest : Text} {piece : Piece}
    (fits : piece.Fits delimiters rest) : piece.written delimiters ≠ [] := by
  cases piece with
  | code fragment => simp [written, Fragment.written]
  | literal units =>
      intro empty
      have short := LiteralUnit.length_le_length_writtenAll delimiters units
      rw [show LiteralUnit.writtenAll delimiters units = [] from empty] at short
      exact fits.1 (List.length_eq_zero_iff.mp (Nat.le_zero.1 short))

/-- What fits in front of some text fits in front of more of it. -/
theorem Fits.append {delimiters : Delimiters} {rest : Text} {piece : Piece}
    (fits : piece.Fits delimiters rest) (nonempty : rest ≠ []) (more : Text) :
    piece.Fits delimiters (rest ++ more) := by
  obtain ⟨c, tail, rfl⟩ := List.exists_cons_of_ne_nil nonempty
  cases piece with
  | code fragment => exact ⟨fits.1, fits.2⟩
  | literal units => exact ⟨fits.1, fits.2.1, .inr (fits.2.2.resolve_left nonempty)⟩

/-- A literal piece does not begin with the character that opens code. -/
theorem head?_written_literal_ne {delimiters : Delimiters} {rest : Text}
    {units : List LiteralUnit} (fits : (literal units).Fits delimiters rest) (behind : Text) :
    ((literal units).written delimiters ++ behind).head? ≠ some delimiters.codeOpen := by
  rcases fits with ⟨some, valid, _⟩
  cases units with
  | nil => exact absurd rfl some
  | cons unit units =>
      have here := valid unit List.mem_cons_self
      cases unit with
      | plain c => simpa [written, LiteralUnit.written] using here.1
      | escaped c => simpa [written, LiteralUnit.written, LiteralUnit.Valid] using here

end Piece

/-- The pieces in a row are the text, each of them in its place: a literal is
followed by code or by nothing, and a fragment has a name exactly when one is
opened directly behind its code. -/
inductive Decomposes (delimiters : Delimiters) : Text → List Piece → Prop
  | nil : Decomposes delimiters [] []
  | literal {units : List LiteralUnit} {rest : Text} {later : List Piece}
      (some : units ≠ []) (valid : ∀ unit ∈ units, unit.Valid delimiters)
      (followed : later = [] ∨ ∃ fragment others, later = .code fragment :: others)
      (more : Decomposes delimiters rest later) :
      Decomposes delimiters (LiteralUnit.writtenAll delimiters units ++ rest)
        (.literal units :: later)
  | code {fragment : Fragment} {rest : Text} {later : List Piece}
      (closed : fragment.Closed delimiters) (ends : fragment.EndsBefore delimiters rest)
      (more : Decomposes delimiters rest later) :
      Decomposes delimiters (fragment.written delimiters ++ rest) (.code fragment :: later)

namespace Decomposes

variable {delimiters : Delimiters} {text rest : Text} {piece : Piece} {pieces later : List Piece}

theorem eq_flatMap_written (decomposes : Decomposes delimiters text pieces) :
    text = pieces.flatMap (Piece.written delimiters) := by
  induction decomposes with
  | nil => rfl
  | literal _ _ _ _ ih => simp [← ih, Piece.written]
  | code _ _ _ ih => simp [← ih, Piece.written]

/-- The first piece fits in front of the others. -/
theorem exists_rest (decomposes : Decomposes delimiters text (piece :: later)) :
    ∃ rest, text = piece.written delimiters ++ rest ∧ piece.Fits delimiters rest ∧
      Decomposes delimiters rest later := by
  cases decomposes with
  | @literal units rest _ some valid followed more =>
      refine ⟨rest, rfl, ⟨some, valid, ?_⟩, more⟩
      rcases followed with rfl | ⟨fragment, others, rfl⟩
      · exact .inl more.eq_flatMap_written
      · right
        simp [more.eq_flatMap_written, Piece.written, Fragment.written]
  | @code fragment rest _ closed ends more => exact ⟨rest, rfl, ⟨closed, ends⟩, more⟩

/-- A text with a piece is not empty. -/
theorem ne_nil (decomposes : Decomposes delimiters text (piece :: later)) : text ≠ [] := by
  rcases decomposes.exists_rest with ⟨rest, rfl, fits, _⟩
  intro empty
  exact Piece.written_ne_nil fits (List.append_eq_nil_iff.mp empty).1

/-- A piece that fits in front of a decomposed text can be added to it. -/
theorem cons (more : Decomposes delimiters rest later) (fits : piece.Fits delimiters rest) :
    Decomposes delimiters (piece.written delimiters ++ rest) (piece :: later) := by
  cases piece with
  | code fragment => exact .code fits.1 fits.2 more
  | literal units =>
      refine .literal fits.1 fits.2.1 ?_ more
      cases later with
      | nil => exact .inl rfl
      | cons next others =>
          cases next with
          | code fragment => exact .inr ⟨fragment, others, rfl⟩
          | literal nextUnits =>
              -- the next literal would begin with the character that opens code
              have opens := fits.2.2.resolve_left more.ne_nil
              rcases more.exists_rest with ⟨behind, rfl, nextFits, _⟩
              exact absurd opens (Piece.head?_written_literal_ne nextFits behind)

end Decomposes

end Template

end Inlay
