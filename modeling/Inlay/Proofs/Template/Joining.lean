import Inlay.Proofs.Template.Grammar

/-!
# Template texts in a row

Two template texts in a row are read like each of them on its own.  There are
two things that can happen at the seam.  A literal at the end of the first text
goes on in a literal at the start of the second, and they are read as one.  And
a fragment without a name at the end of the first text would take a name that
the second one begins with; this is ruled out.

Behind all segments of the first text, what is left to read is the second one,
so that both in a row can be read exactly if the second can.
-/

namespace Inlay

/-- Segments behind others, where literals on both sides of the seam make one
literal. -/
def Segment.join : List Segment → List Segment → List Segment
  | [literal first], literal second :: later => literal (first ++ second) :: later
  | [], later => later
  | segment :: others, later => segment :: join others later

@[simp]
theorem Segment.join_cons_cons (segment next : Segment) (others later : List Segment) :
    join (segment :: next :: others) later = segment :: join (next :: others) later := by
  cases segment <;> rfl

namespace Template

open LiteralUnit

variable {delimiters : Delimiters} {first second rest : Text} {piece : Piece}
  {pieces others : List Piece} {units : List LiteralUnit}

/-! ## Pieces in front of another text -/

/-- The pieces in a row are a text that another one may follow: each of them fits
also in front of that, except that a literal at the end may go on. -/
inductive LeadsInto (delimiters : Delimiters) (second : Text) : Text → List Piece → Prop
  | last {piece : Piece} (fits : piece.Fits delimiters [])
      (ends : ∀ fragment, piece = .code fragment → fragment.EndsBefore delimiters second) :
      LeadsInto delimiters second (piece.written delimiters) [piece]
  | cons {piece next : Piece} {rest : Text} {later : List Piece}
      (fits : piece.Fits delimiters (rest ++ second))
      (more : LeadsInto delimiters second rest (next :: later)) :
      LeadsInto delimiters second (piece.written delimiters ++ rest) (piece :: next :: later)

/-- A decomposed text may be followed by one that does not begin with a name for
its last fragment. -/
theorem Decomposes.leadsInto (front : Decomposes delimiters first (piece :: others))
    (ends : ∀ fragment, (piece :: others).getLast? = some (.code fragment) →
      fragment.EndsBefore delimiters second) :
    LeadsInto delimiters second first (piece :: others) := by
  induction others generalizing first piece with
  | nil =>
      obtain ⟨rest, rfl, fits, more⟩ := front.exists_rest
      obtain rfl : rest = [] := more.eq_flatMap_written
      rw [List.append_nil]
      refine .last fits ?_
      rintro fragment rfl
      exact ends fragment rfl
  | cons next later ih =>
      obtain ⟨rest, rfl, fits, more⟩ := front.exists_rest
      exact .cons (fits.append more.ne_nil second) (ih more ends)

/-! ## Putting decompositions together -/

/-- A last piece is joined to the pieces of the text behind it. -/
theorem Piece.Fits.join (fits : piece.Fits delimiters [])
    (ends : ∀ fragment, piece = .code fragment → fragment.EndsBefore delimiters second)
    (back : Decomposes delimiters second others) :
    ∃ whole, Decomposes delimiters (piece.written delimiters ++ second) whole ∧
      whole.map Piece.segment = Segment.join [piece.segment] (others.map Piece.segment) := by
  cases piece with
  | code fragment =>
      exact ⟨.code fragment :: others, back.cons ⟨fits.1, ends fragment rfl⟩, rfl⟩
  | literal units =>
      cases others with
      | nil =>
          obtain rfl : second = [] := back.eq_flatMap_written
          exact ⟨[.literal units], back.cons fits, rfl⟩
      | cons next later =>
          obtain ⟨behind, rfl, nextFits, more⟩ := back.exists_rest
          cases next with
          | code fragment =>
              have here : (Piece.literal units).Fits delimiters
                  ((Piece.code fragment).written delimiters ++ behind) :=
                ⟨fits.1, fits.2.1, .inr rfl⟩
              exact ⟨.literal units :: .code fragment :: later, back.cons here, rfl⟩
          | literal nextUnits =>
              have joined : (Piece.literal (units ++ nextUnits)).Fits delimiters behind :=
                ⟨by simp [fits.1], List.forall_mem_append.mpr ⟨fits.2.1, nextFits.2.1⟩,
                  nextFits.2.2⟩
              refine ⟨.literal (units ++ nextUnits) :: later, ?_, ?_⟩
              · simpa [Piece.written] using more.cons joined
              · simp [Piece.segment, Segment.join]

/-- Decompositions of two texts in a row make one of both, with the joined
segments. -/
theorem LeadsInto.append (front : LeadsInto delimiters second first pieces)
    (back : Decomposes delimiters second others) :
    ∃ whole, Decomposes delimiters (first ++ second) whole ∧
      whole.map Piece.segment =
        Segment.join (pieces.map Piece.segment) (others.map Piece.segment) := by
  induction front with
  | last fits ends => exact fits.join ends back
  | @cons piece next rest later fits more ih =>
      obtain ⟨whole, decomposes, segments⟩ := ih
      refine ⟨piece :: whole, ?_, ?_⟩
      · rw [List.append_assoc]
        exact decomposes.cons fits
      · simp only [List.map_cons, segments, Segment.join_cons_cons]

/-! ## Taking decompositions apart -/

/-- A piece that fits is the first piece of any decomposition. -/
theorem Decomposes.of_fits (whole : Decomposes delimiters (piece.written delimiters ++ rest) pieces)
    (fits : piece.Fits delimiters rest) :
    ∃ others, Decomposes delimiters rest others := by
  cases pieces with
  | nil =>
      have empty := List.append_eq_nil_iff.mp whole.eq_flatMap_written
      exact absurd empty.1 (Piece.written_ne_nil fits)
  | cons other later =>
      obtain ⟨behind, same, otherFits, more⟩ := whole.exists_rest
      obtain ⟨rfl, rfl⟩ := fits.unique otherFits same
      exact ⟨later, more⟩

/-- Behind literal text that goes on, the rest of the units are a piece of their
own. -/
theorem Decomposes.of_literal_fits
    (whole : Decomposes delimiters (writtenAll delimiters units ++ second) pieces)
    (fits : (Piece.literal units).Fits delimiters []) :
    ∃ others, Decomposes delimiters second others := by
  cases pieces with
  | nil =>
      have empty := List.append_eq_nil_iff.mp whole.eq_flatMap_written
      exact ⟨[], empty.2 ▸ .nil⟩
  | cons piece later =>
      obtain ⟨behind, same, pieceFits, more⟩ := whole.exists_rest
      cases piece with
      | code fragment =>
          have opens := congrArg List.head? same
          exact absurd opens (Piece.head?_written_literal_ne fits second)
      | literal all =>
          have splits :
              split delimiters (writtenAll delimiters units ++ second) = (all, behind) := by
            rw [same]
            exact split_writtenAll_append pieceFits.2.1 pieceFits.2.2
          rw [split_writtenAll fits.2.1] at splits
          obtain ⟨rfl, rfl⟩ := Prod.mk.inj splits
          have written := writtenAll_split delimiters second
          by_cases none : (split delimiters second).1 = []
          · rw [none, writtenAll_nil, List.nil_append] at written
            exact ⟨later, written ▸ more⟩
          · have goesOn : (Piece.literal (split delimiters second).1).Fits delimiters
                (split delimiters second).2 :=
              ⟨none, fun unit mem => valid_of_mem_split mem, pieceFits.2.2⟩
            exact ⟨_, written ▸ more.cons goesOn⟩

/-- If two texts in a row can be decomposed, so can the second. -/
theorem LeadsInto.exists_back (front : LeadsInto delimiters second first pieces)
    (whole : Decomposes delimiters (first ++ second) others) :
    ∃ behind, Decomposes delimiters second behind := by
  induction front generalizing others with
  | @last piece fits ends =>
      cases piece with
      | code fragment => exact whole.of_fits ⟨fits.1, ends fragment rfl⟩
      -- a literal may go on behind the seam, and is no piece of the whole then
      | literal units => exact whole.of_literal_fits fits
  | cons fits more ih =>
      rw [List.append_assoc] at whole
      obtain ⟨behind, decomposes⟩ := whole.of_fits fits
      exact ih decomposes

/-! ## Parsing texts in a row -/

/-- Behind a text that is parsed, another one is parsed as on its own, as long as
it does not begin with a name for a fragment that ends the first: both in a row
give the segments of both, where a literal at the seam is one, and if the source
ends too early on its own, it does so in a row. -/
theorem parse_append (delimiters : Delimiters) (first second : Text) (segments : List Segment)
    (parsed : Segment.parse delimiters first = .ok segments) (nonempty : second ≠ [])
    (ends : ∀ code, segments.getLast? = some (.code ⟨code, none⟩) →
      second.head? ≠ some delimiters.nameOpen) :
    (∀ others, Segment.parse delimiters second = .ok others →
      Segment.parse delimiters (first ++ second) = .ok (Segment.join segments others)) ∧
    ∀ fault, Segment.parse delimiters second = .error fault →
      Segment.parse delimiters (first ++ second) =
        .error (.endOfInput (first.length + second.length)) := by
  have firstNonempty : first ≠ [] := by
    rintro rfl
    contradiction
  have bothNonempty : first ++ second ≠ [] := List.append_ne_nil_of_left_ne_nil firstNonempty second
  obtain ⟨pieces, decomposes, rfl⟩ := (parse_eq_ok_iff firstNonempty).mp parsed
  obtain ⟨piece, later, rfl⟩ : ∃ piece later, pieces = piece :: later := by
    apply List.exists_cons_of_ne_nil
    rintro rfl
    exact firstNonempty decomposes.eq_flatMap_written
  have front : LeadsInto delimiters second first (piece :: later) := by
    apply decomposes.leadsInto
    rintro ⟨code, _⟩ last rfl
    exact ends code (by rw [List.getLast?_map, last]; rfl)
  constructor
  · intro others parsedBehind
    obtain ⟨behind, back, rfl⟩ := (parse_eq_ok_iff nonempty).mp parsedBehind
    exact (parse_eq_ok_iff bothNonempty).mpr (front.append back)
  · intro fault failed
    rcases parse_cases delimiters (first ++ second) with ⟨whole, decomposesBoth⟩ | failedBoth
    · obtain ⟨behind, back⟩ := front.exists_back decomposesBoth
      rw [parse_of_decomposes nonempty back] at failed
      contradiction
    · rw [failedBoth, List.length_append]

/-- A literal goes on behind the seam. -/
theorem parse_append_literal :
    Segment.parse {} ['\x60', 'a', '\x60', 'b'] = .ok [.code ⟨['a'], none⟩, .literal ['b']] ∧
      Segment.parse {} (['\x60', 'a', '\x60', 'b'] ++ ['(', '\\', '\x60']) =
        .ok [.code ⟨['a'], none⟩, .literal ['b', '(', '\x60']] := by
  have parsed : Segment.parse {} ['\x60', 'a', '\x60', 'b'] =
      .ok [.code ⟨['a'], none⟩, .literal ['b']] := by rfl
  have behind : Segment.parse {} ['(', '\\', '\x60'] = .ok [.literal ['(', '\x60']] := by rfl
  have both := parse_append {} ['\x60', 'a', '\x60', 'b'] ['(', '\\', '\x60'] _ parsed
    (by simp) (by simp)
  exact ⟨parsed, both.1 _ behind⟩

end Template

end Inlay
