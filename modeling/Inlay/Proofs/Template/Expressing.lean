import Inlay.Proofs.Template.Grammar
import Mathlib.Data.List.Chain

/-!
# What template texts can express

Not every list of segments is what some template text is parsed into.  A literal
is never empty, and one that follows another would be read as part of it.  Code
and names end at the first character that ends them, and so cannot contain it.
And where a name is opened by the same character as code, a fragment directly
behind one without a name would be read as the name.

There are no other restrictions, as long as the escape opens neither code nor a
name.  With an escape before every character a literal can be anything at all,
and what comes before it ends where it should, because an escape comes next.
-/

namespace Inlay

open Template

namespace Segment

variable {delimiters : Delimiters} {first second : Segment} {later segments : List Segment}

/-- The segment can be written on its own: a literal is not empty, and a
fragment is closed. -/
def Whole (delimiters : Delimiters) : Segment → Prop
  | literal text => text ≠ []
  | code fragment => fragment.Closed delimiters

/-- The second segment is not read as part of the first: they are not both
literals, and where names are opened like code, it is no code behind a fragment
without a name. -/
structure Separate (delimiters : Delimiters) (first second : Segment) : Prop where
  literals : ∀ text other, first = literal text → second ≠ literal other
  codes : delimiters.codeOpen = delimiters.nameOpen →
    ∀ text fragment, first = code ⟨text, none⟩ → second ≠ code fragment

/-- Each segment can be written on its own, and none is read as part of the one
before it. -/
structure Expressible (delimiters : Delimiters) (segments : List Segment) : Prop where
  each : ∀ segment ∈ segments, segment.Whole delimiters
  neighbours : segments.IsChain (Separate delimiters)

/-- Template text for the segment, with an escape before every character of a
literal. -/
def escaped (delimiters : Delimiters) : Segment → Text
  | literal text => text.flatMap fun c => [delimiters.escape, c]
  | code fragment => fragment.written delimiters

/-- The piece of template text that shows the segment with all possible
escapes. -/
def escapedPiece : Segment → Piece
  | literal text => .literal (text.map .escaped)
  | code fragment => .code fragment

@[simp]
theorem segment_escapedPiece (segment : Segment) : segment.escapedPiece.segment = segment := by
  cases segment with
  | code fragment => rfl
  | literal text => simp [escapedPiece, Piece.segment, Function.comp_def, LiteralUnit.meant]

@[simp]
theorem written_escapedPiece (delimiters : Delimiters) (segment : Segment) :
    segment.escapedPiece.written delimiters = segment.escaped delimiters := by
  cases segment with
  | code fragment => rfl
  | literal text =>
      simp [escapedPiece, escaped, Piece.written, LiteralUnit.writtenAll, List.flatMap_map,
        LiteralUnit.written]

/-! ## What is parsed is expressible -/

/-- A piece that fits in front of others stands for a segment that is separate
from the next one. -/
theorem separate_of_fits {piece next : Piece} {behind : Text}
    (fits : piece.Fits delimiters (next.written delimiters ++ behind))
    (nextFits : next.Fits delimiters behind) :
    Separate delimiters piece.segment next.segment := by
  constructor
  · intro text other literal nextLiteral
    cases piece with
    | code fragment => contradiction
    | literal units =>
        cases next with
        | code fragment => contradiction
        | literal nextUnits =>
            -- the next literal would begin with the character that opens code
            have nonempty : (Piece.literal nextUnits).written delimiters ++ behind ≠ [] :=
              List.append_ne_nil_of_left_ne_nil (Piece.written_ne_nil nextFits) behind
            have opens := fits.2.2.resolve_left nonempty
            exact Piece.head?_written_literal_ne nextFits behind opens
  · intro same text fragment anonymous nextCode
    cases piece with
    | literal units => contradiction
    | code here =>
        cases next with
        | literal units => contradiction
        | code there =>
            obtain rfl : here = ⟨text, none⟩ := Segment.code.inj anonymous
            apply fits.2 rfl
            simp [Piece.written, Fragment.written, same]

/-- Pieces in a row stand for segments that are expressible. -/
theorem Expressible.of_decomposes {text : Text} {pieces : List Piece}
    (decomposes : Decomposes delimiters text pieces) :
    Expressible delimiters (pieces.map Piece.segment) := by
  induction pieces generalizing text with
  | nil => exact ⟨by simp, .nil⟩
  | cons piece others ih =>
      obtain ⟨rest, rfl, fits, more⟩ := decomposes.exists_rest
      have behind := ih more
      rw [List.map_cons]
      constructor
      · apply List.forall_mem_cons.mpr ⟨_, behind.each⟩
        cases piece with
        | code fragment => exact fits.1
        | literal units => simpa [Piece.segment, Whole] using fits.1
      · apply List.isChain_cons.mpr ⟨_, behind.neighbours⟩
        cases others with
        | nil => simp
        | cons next others =>
            obtain ⟨rest, rfl, nextFits, _⟩ := more.exists_rest
            simpa using separate_of_fits fits nextFits

/-! ## What is expressible can be written with escapes -/

theorem head?_escaped_literal {text : Text} (nonempty : text ≠ []) (behind : Text) :
    ((literal text).escaped delimiters ++ behind).head? = some delimiters.escape := by
  obtain ⟨c, rest, rfl⟩ := List.exists_cons_of_ne_nil nonempty
  rfl

theorem head?_escaped_code (fragment : Fragment) (behind : Text) :
    ((code fragment).escaped delimiters ++ behind).head? = some delimiters.codeOpen :=
  rfl

/-- A literal may stop in front of expressible segments that do not begin with
another literal. -/
theorem stops_escaped (different : ∀ second ∈ later.head?, ∀ other, second ≠ literal other) :
    LiteralUnit.Stops delimiters (later.flatMap (escaped delimiters)) := by
  cases later with
  | nil => exact .inl rfl
  | cons second others =>
      cases second with
      | code fragment => exact .inr (head?_escaped_code fragment _)
      | literal other => exact absurd rfl (different (literal other) rfl other)

/-- A fragment ends in front of expressible segments: an escape opens no name,
and code does not stand where it would open one. -/
theorem endsBefore_escaped {fragment : Fragment} (opens : delimiters.escape ≠ delimiters.nameOpen)
    (whole : ∀ second ∈ later.head?, second.Whole delimiters)
    (separate : ∀ second ∈ later.head?, Separate delimiters (code fragment) second) :
    fragment.EndsBefore delimiters (later.flatMap (escaped delimiters)) := by
  intro anonymous
  cases later with
  | nil => simp
  | cons second others =>
      rw [List.flatMap_cons]
      cases second with
      | literal text =>
          rw [head?_escaped_literal (whole (literal text) rfl)]
          simpa using opens
      | code next =>
          rw [head?_escaped_code]
          intro same
          have codes := (separate (code next) rfl).codes (Option.some.inj same) fragment.code next
          apply codes _ rfl
          rw [← anonymous]

/-- Expressible segments are written with escapes as pieces in a row. -/
theorem Expressible.decomposes (expressible : Expressible delimiters segments)
    (closed : delimiters.escape ≠ delimiters.codeOpen)
    (opens : delimiters.escape ≠ delimiters.nameOpen) :
    Decomposes delimiters (segments.flatMap (escaped delimiters))
      (segments.map escapedPiece) := by
  induction segments with
  | nil => exact .nil
  | cons first later ih =>
      obtain ⟨whole, wholeBehind⟩ := List.forall_mem_cons.mp expressible.each
      obtain ⟨here, behind⟩ := List.isChain_cons.mp expressible.neighbours
      have more := ih ⟨wholeBehind, behind⟩
      rw [List.flatMap_cons, List.map_cons, ← written_escapedPiece]
      apply more.cons
      cases first with
      | literal text =>
          have some : text.map LiteralUnit.escaped ≠ [] := by simpa [Whole] using whole
          have valid : ∀ unit ∈ text.map LiteralUnit.escaped, unit.Valid delimiters := by
            intro unit member
            obtain ⟨c, _, rfl⟩ := List.mem_map.mp member
            exact closed
          have stops : LiteralUnit.Stops delimiters (later.flatMap (escaped delimiters)) := by
            apply stops_escaped
            intro second member other
            exact (here second member).literals text other rfl
          exact ⟨some, valid, stops⟩
      | code fragment =>
          have ends : fragment.EndsBefore delimiters (later.flatMap (escaped delimiters)) := by
            apply endsBefore_escaped opens _ here
            intro second member
            exact wholeBehind second (List.mem_of_mem_head? member)
          exact ⟨whole, ends⟩

/-- Expressible segments are what their text with escapes is parsed into. -/
theorem Expressible.parse_escaped (expressible : Expressible delimiters segments)
    (closed : delimiters.escape ≠ delimiters.codeOpen)
    (opens : delimiters.escape ≠ delimiters.nameOpen) (nonempty : segments ≠ []) :
    segments.flatMap (escaped delimiters) ≠ [] ∧
      parse delimiters (segments.flatMap (escaped delimiters)) = .ok segments := by
  have decomposes := expressible.decomposes closed opens
  have shown : segments.flatMap (escaped delimiters) ≠ [] := by
    obtain ⟨first, later, rfl⟩ := List.exists_cons_of_ne_nil nonempty
    exact decomposes.ne_nil
  have parsed := parse_of_decomposes shown decomposes
  rw [List.map_map] at parsed
  exact ⟨shown, by simpa [Function.comp_def] using parsed⟩

end Segment

namespace Template

/-! ## The segments of template texts -/

/-- As long as the escape opens neither code nor a name, the segments that some
text is parsed into are exactly the expressible ones, and a text for them is the
one with an escape before every character of every literal. -/
theorem exists_parse_iff_expressible (delimiters : Delimiters) (segments : List Segment)
    (closed : delimiters.escape ≠ delimiters.codeOpen)
    (opens : delimiters.escape ≠ delimiters.nameOpen) :
    ((∃ source, source ≠ [] ∧ Segment.parse delimiters source = .ok segments) ↔
      segments ≠ [] ∧ Segment.Expressible delimiters segments) ∧
    (segments ≠ [] → Segment.Expressible delimiters segments →
      Segment.parse delimiters (segments.flatMap (Segment.escaped delimiters)) = .ok segments) := by
  constructor
  · constructor
    · rintro ⟨source, nonempty, parsed⟩
      obtain ⟨pieces, decomposes, rfl⟩ := (parse_eq_ok_iff nonempty).mp parsed
      have some : pieces.map Piece.segment ≠ [] := by
        intro empty
        rw [List.map_eq_nil_iff] at empty
        subst empty
        exact nonempty decomposes.eq_flatMap_written
      exact ⟨some, .of_decomposes decomposes⟩
    · rintro ⟨nonempty, expressible⟩
      exact ⟨_, expressible.parse_escaped closed opens nonempty⟩
  · intro nonempty expressible
    exact (expressible.parse_escaped closed opens nonempty).2

/-- Delimiters, escapes and what looks like a name come back behind a fragment
without one. -/
theorem exists_parse_iff_expressible_opening :
    (({} : Delimiters).escape ≠ ({} : Delimiters).codeOpen ∧
        ({} : Delimiters).escape ≠ ({} : Delimiters).nameOpen) ∧
      Segment.parse {} ['\x60', 'a', '\x60', '\\', '(', '\\', '\x60', '\\', '\\'] =
        .ok [.code ⟨['a'], none⟩, .literal ['(', '\x60', '\\']] := by
  have closed : ({} : Delimiters).escape ≠ ({} : Delimiters).codeOpen := by decide
  have opens : ({} : Delimiters).escape ≠ ({} : Delimiters).nameOpen := by decide
  have codeClosed : Fragment.Closed {} ⟨['a'], none⟩ := ⟨by decide, by simp⟩
  have expressible :
      Segment.Expressible {} [.code ⟨['a'], none⟩, .literal ['(', '\x60', '\\']] := by
    constructor
    · simp [Segment.Whole, codeClosed]
    · apply List.IsChain.cons_cons _ (.singleton _)
      constructor <;> simp
  exact ⟨⟨closed, opens⟩, (exists_parse_iff_expressible {} _ closed opens).2 (by simp) expressible⟩

end Template

end Inlay
