import Inlay.Proofs.Template.Reading

/-!
# Parsing decides the grammar

A text that is not empty has at most one decomposition into pieces.  Parsing
gives the segments of that decomposition, and fails exactly where there is
none, because the source ended.
-/

namespace Inlay.Template

open Cursor

variable {delimiters : Delimiters} {source rest : Text}

/-! ## Decompositions are unique -/

/-- Two pieces that fit at the front of one text are what is read there. -/
theorem Piece.Fits.unique {piece other : Piece} {otherRest : Text}
    (fits : piece.Fits delimiters rest) (otherFits : other.Fits delimiters otherRest)
    (same : piece.written delimiters ++ rest = other.written delimiters ++ otherRest) :
    piece = other ∧ rest = otherRest := by
  have taken := Piece.takes_readNext fits
  obtain ⟨samePiece, _, sameRest⟩ := taken.unique (Piece.takes_readNext otherFits) same
  exact ⟨samePiece, sameRest⟩

/-- Two rows of pieces that are one text are what is read from it. -/
theorem Decomposes.unique {pieces others : List Piece}
    (decomposes : Decomposes delimiters source pieces)
    (decomposesToo : Decomposes delimiters source others) : pieces = others :=
  ((Piece.takes_readAll decomposes).unique (Piece.takes_readAll decomposesToo) rfl).1

/-! ## The pieces of a source -/

/-- The pieces that a source is read into. -/
def readPieces (delimiters : Delimiters) (source : Text) : Except Fault (List Piece) := do
  let cursor ← Cursor.ofSource source
  match Piece.readAll delimiters cursor with
  | .ok pieces _ => pure pieces
  | .error fault _ => throw fault

theorem readPieces_of_decomposes {pieces : List Piece} (nonempty : source ≠ [])
    (decomposes : Decomposes delimiters source pieces) :
    readPieces delimiters source = .ok pieces := by
  have before : (start source).after = source ++ [] := (List.append_nil source).symm
  have gives := Piece.takes_readAll decomposes before
  simp [readPieces, ofSource, nonempty, bind, Except.bind, gives, pure, Except.pure]

theorem readPieces_of_breaksOff {pieces : List Piece} {stump : Stump}
    (breaks : BreaksOff delimiters source pieces stump) :
    readPieces delimiters source = .error (.endOfInput source.length) := by
  have before : (start source).after = source := rfl
  have fails := Piece.runsOut_readAll breaks before
  have length : (start source).length = source.length := by simp [start, Cursor.length]
  simp [readPieces, ofSource, breaks.ne_nil, bind, Except.bind, fails, length, throw, throwThe,
    MonadExceptOf.throw]

/-- A source is read into the pieces that it decomposes into. -/
theorem readPieces_eq_ok_iff {pieces : List Piece} (nonempty : source ≠ []) :
    readPieces delimiters source = .ok pieces ↔ Decomposes delimiters source pieces := by
  constructor
  · intro read
    rcases decomposes_or_breaksOff delimiters source with ⟨_, decomposes⟩ | ⟨_, _, breaks⟩
    · rw [readPieces_of_decomposes nonempty decomposes] at read
      exact Except.ok.inj read ▸ decomposes
    · rw [readPieces_of_breaksOff breaks] at read
      contradiction
  · exact readPieces_of_decomposes nonempty

/-! ## Parsing -/

/-- Parsing a source is reading its pieces. -/
theorem parse_eq_map_readPieces (delimiters : Delimiters) (source : Text) :
    Segment.parse delimiters source = List.map Piece.segment <$> readPieces delimiters source := by
  rw [Segment.parse, readPieces, map_bind]
  congr
  funext cursor
  rw [Segment.readAll_eq]
  cases ran : Piece.readAll delimiters cursor with
  | ok pieces left => simp only [Sequence.map_of_ok ran, map_pure]
  | error fault left => simp only [Sequence.map_of_error ran]; rfl

/-- A decomposed text is parsed into the segments of its pieces. -/
theorem parse_of_decomposes {pieces : List Piece} (nonempty : source ≠ [])
    (decomposes : Decomposes delimiters source pieces) :
    Segment.parse delimiters source = .ok (pieces.map Piece.segment) := by
  rw [parse_eq_map_readPieces, readPieces_of_decomposes nonempty decomposes]
  rfl

/-- A text that breaks off is not parsed, because the source ends too early. -/
theorem parse_of_breaksOff {pieces : List Piece} {stump : Stump}
    (breaks : BreaksOff delimiters source pieces stump) :
    Segment.parse delimiters source = .error (.endOfInput source.length) := by
  rw [parse_eq_map_readPieces, readPieces_of_breaksOff breaks]
  rfl

/-- Parsing succeeds only on decomposed texts. -/
theorem parse_cases (delimiters : Delimiters) (source : Text) :
    (∃ pieces, Decomposes delimiters source pieces) ∨
      Segment.parse delimiters source = .error (.endOfInput source.length) := by
  rcases decomposes_or_breaksOff delimiters source with decomposes | ⟨pieces, stump, breaks⟩
  · exact .inl decomposes
  · exact .inr (parse_of_breaksOff breaks)

/-- Parsing fails only on texts that break off, or because there is no text. -/
theorem breaksOff_of_parse_eq_error {fault : Fault} (nonempty : source ≠ [])
    (failed : Segment.parse delimiters source = .error fault) :
    ∃ pieces stump, BreaksOff delimiters source pieces stump := by
  apply (decomposes_or_breaksOff delimiters source).resolve_left
  rintro ⟨pieces, decomposes⟩
  rw [parse_of_decomposes nonempty decomposes] at failed
  contradiction

/-- Whatever failure parsing some text tells of, the source ended too early. -/
theorem fault_of_parse_eq_error {fault : Fault} (nonempty : source ≠ [])
    (failed : Segment.parse delimiters source = .error fault) :
    fault = .endOfInput source.length := by
  obtain ⟨pieces, stump, breaks⟩ := breaksOff_of_parse_eq_error nonempty failed
  rw [parse_of_breaksOff breaks] at failed
  exact (Except.error.inj failed).symm

theorem parse_eq_ok_iff {segments : List Segment} (nonempty : source ≠ []) :
    Segment.parse delimiters source = .ok segments ↔
      ∃ pieces, Decomposes delimiters source pieces ∧ pieces.map Piece.segment = segments := by
  simp only [parse_eq_map_readPieces, ← readPieces_eq_ok_iff nonempty]
  cases readPieces delimiters source with
  | ok pieces => simp [Functor.map, Except.map]
  | error fault => simp [Functor.map, Except.map]

/-- The grammar is unambiguous, and parsing decides it: a text that is not
empty is parsed into the segments of its one decomposition, and if it has none,
the source ended too early. -/
theorem parse_decides_grammar (delimiters : Delimiters) (source : Text) (nonempty : source ≠ []) :
    (∀ segments, Segment.parse delimiters source = .ok segments ↔
      ∃ pieces, Decomposes delimiters source pieces ∧ pieces.map Piece.segment = segments) ∧
    (∀ first second, Decomposes delimiters source first → Decomposes delimiters source second →
      first = second) ∧
    ((¬∃ pieces, Decomposes delimiters source pieces) →
      Segment.parse delimiters source = .error (.endOfInput source.length)) := by
  refine ⟨?_, ?_, ?_⟩
  · intro segments
    exact parse_eq_ok_iff nonempty
  · intro first second decomposes decomposesToo
    exact decomposes.unique decomposesToo
  · intro noPieces
    exact (parse_cases delimiters source).resolve_left noPieces

/-- An escaped opening delimiter, and code with an empty name behind it. -/
theorem parse_decides_grammar_escaped :
    ['\\', '\x60', '\x60', 'b', '\x60', '(', ')'] ≠ ([] : Text) ∧
      Segment.parse {} ['\\', '\x60', '\x60', 'b', '\x60', '(', ')'] =
        .ok [.literal ['\x60'], .code ⟨['b'], some []⟩] := by
  have nonempty : ['\\', '\x60', '\x60', 'b', '\x60', '(', ')'] ≠ ([] : Text) := by decide
  have codeFits : (Piece.code ⟨['b'], some []⟩).Fits {} [] :=
    ⟨⟨by decide, by simp⟩, by simp [Fragment.EndsBefore]⟩
  have literalFits : (Piece.literal [.escaped '\x60']).Fits {} ['\x60', 'b', '\x60', '(', ')'] :=
    ⟨by decide, by simp [LiteralUnit.Valid], by simp [LiteralUnit.Stops]⟩
  have decomposes := (Decomposes.nil.cons codeFits).cons literalFits
  exact ⟨nonempty, ((parse_decides_grammar {} _ nonempty).1 _).2 ⟨_, decomposes, rfl⟩⟩

end Inlay.Template
