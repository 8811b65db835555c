import Inlay.Proofs.Template.Grammar
import Inlay.Template.Basic
import Mathlib.Data.List.Chain

/-!
# Which segments their display form gives back

The display form shows literals as they are, and segments without anything
between them.  `Legible` says of a list of segments that no literal needs an
escape, no fragment contains what ends it, and no two neighbours run together.

Legible segments are written as the pieces that stand for them, so parsing the
display form gives them back.  Conversely, a piece is never shorter than its
segment is written, and longer if it contains an escape.  So where parsing
gives back the displayed segments, the lengths leave no room for an escape, and
the grammar of the pieces is that of the segments.
-/

namespace Inlay

open Template

/-! ## Legible segments -/

namespace Segment

/-- The segment can be read back on its own: a literal is not empty and shows
no character that has a meaning there, and a fragment is closed. -/
def Plain (delimiters : Delimiters) : Segment → Prop
  | literal text => text ≠ [] ∧ delimiters.codeOpen ∉ text ∧ delimiters.escape ∉ text
  | code fragment => fragment.Closed delimiters

/-- The second segment does not run together with the first: they are not both
literals, and behind a fragment without a name it does not begin like one. -/
structure Apart (delimiters : Delimiters) (first second : Segment) : Prop where
  literals : ∀ text other, first = literal text → second ≠ literal other
  names : ∀ text, first = code ⟨text, none⟩ →
    (second.written delimiters).head? ≠ some delimiters.nameOpen

/-- Each segment can be read back on its own, and no neighbours run
together. -/
structure Legible (delimiters : Delimiters) (segments : List Segment) : Prop where
  each : ∀ segment ∈ segments, segment.Plain delimiters
  neighbours : segments.IsChain (Apart delimiters)

/-- The piece of template text that shows the segment without escapes. -/
def piece : Segment → Piece
  | literal text => .literal (text.map .plain)
  | code fragment => .code fragment

@[simp]
theorem segment_piece (segment : Segment) : segment.piece.segment = segment := by
  cases segment with
  | code fragment => rfl
  | literal text => simp [piece, Piece.segment, Function.comp_def, LiteralUnit.meant]

@[simp]
theorem written_piece (delimiters : Delimiters) (segment : Segment) :
    segment.piece.written delimiters = segment.written delimiters := by
  cases segment with
  | code fragment => rfl
  | literal text =>
      change LiteralUnit.writtenAll delimiters (text.map .plain) = text
      induction text with
      | nil => rfl
      | cons c text ih => simp [LiteralUnit.written, ih]

theorem written_ne_nil {delimiters : Delimiters} {segment : Segment}
    (plain : segment.Plain delimiters) : segment.written delimiters ≠ [] := by
  cases segment with
  | literal text => exact plain.1
  | code fragment => simp [Fragment.written]

section

variable {delimiters : Delimiters} {first second : Segment} {later : List Segment}

theorem legible_cons_iff :
    Legible delimiters (first :: later) ↔
      first.Plain delimiters ∧ (∀ second ∈ later.head?, Apart delimiters first second) ∧
        Legible delimiters later := by
  constructor
  · rintro ⟨each, neighbours⟩
    obtain ⟨here, behind⟩ := List.isChain_cons.mp neighbours
    exact ⟨each first List.mem_cons_self, here,
      fun segment member => each segment (List.mem_cons_of_mem first member), behind⟩
  · rintro ⟨plain, here, each, behind⟩
    exact ⟨List.forall_mem_cons.mpr ⟨plain, each⟩, List.isChain_cons.mpr ⟨here, behind⟩⟩

/-- What segments in a row begin with is what the first of them begins with. -/
theorem head?_flatMap_written (plain : second.Plain delimiters) (others : List Segment) :
    ((second :: others).flatMap (written delimiters)).head? =
      (second.written delimiters).head? := by
  obtain ⟨c, rest, shown⟩ := List.exists_cons_of_ne_nil (written_ne_nil plain)
  simp [shown]

/-- A literal may stop in front of plain segments exactly if they do not begin
with another literal. -/
theorem stops_iff (plain : ∀ second ∈ later.head?, second.Plain delimiters) :
    LiteralUnit.Stops delimiters (later.flatMap (written delimiters)) ↔
      ∀ second ∈ later.head?, ∀ other, second ≠ literal other := by
  cases later with
  | nil => simp [LiteralUnit.Stops]
  | cons second others =>
      have secondPlain := plain second rfl
      have nonempty : (second :: others).flatMap (written delimiters) ≠ [] := by
        simp [written_ne_nil secondPlain]
      rw [LiteralUnit.Stops, head?_flatMap_written secondPlain]
      simp only [nonempty, false_or, List.head?_cons, Option.mem_def, Option.some.injEq,
        forall_eq']
      cases second with
      | code fragment => simp [Fragment.written]
      | literal text =>
          have closed : text.head? ≠ some delimiters.codeOpen :=
            fun opens => secondPlain.2.1 (List.mem_of_mem_head? opens)
          simp [closed]

theorem apart_literal_iff {text : Text} :
    Apart delimiters (literal text) second ↔ ∀ other, second ≠ literal other := by
  constructor
  · intro apart other
    exact apart.literals text other rfl
  · intro different
    constructor
    · intro _ other _
      exact different other
    · intro _ same
      cases same

theorem apart_code_iff {fragment : Fragment} :
    Apart delimiters (code fragment) second ↔
      fragment.EndsBefore delimiters (second.written delimiters) := by
  rcases fragment with ⟨code, name⟩
  constructor
  · rintro apart rfl
    exact apart.names code rfl
  · intro ends
    constructor
    · intro _ _ same
      cases same
    · intro text same
      apply ends
      cases same
      rfl

/-- Units that are not escaped may stand for a text exactly if no character of
it has a meaning there. -/
theorem valid_plain_iff {text : Text} :
    (∀ unit ∈ text.map LiteralUnit.plain, unit.Valid delimiters) ↔
      delimiters.codeOpen ∉ text ∧ delimiters.escape ∉ text := by
  simp only [List.forall_mem_map, LiteralUnit.Valid, forall_and, ne_eq, List.forall_mem_ne']

/-- The piece for a segment fits in front of plain segments exactly if the
segment is plain itself and does not run together with them. -/
theorem fits_piece_iff (plain : ∀ second ∈ later.head?, second.Plain delimiters) :
    first.piece.Fits delimiters (later.flatMap (written delimiters)) ↔
      first.Plain delimiters ∧ ∀ second ∈ later.head?, Apart delimiters first second := by
  cases first with
  | literal text =>
      simp only [piece, Piece.Fits, stops_iff plain, apart_literal_iff, ← and_assoc]
      apply and_congr_left
      intro _
      rw [valid_plain_iff, ne_eq, List.map_eq_nil_iff, Plain]
  | code fragment =>
      simp only [piece, Piece.Fits, Plain, apart_code_iff]
      apply and_congr_right
      intro _
      cases later with
      | nil => simp [Fragment.EndsBefore]
      | cons second others =>
          rw [Fragment.EndsBefore, head?_flatMap_written (plain second rfl)]
          simp [Fragment.EndsBefore]

/-- Segments are legible exactly if their display form decomposes into the
pieces that show them. -/
theorem legible_iff_decomposes {segments : List Segment} :
    Legible delimiters segments ↔
      Decomposes delimiters (segments.flatMap (written delimiters)) (segments.map piece) := by
  induction segments with
  | nil =>
      constructor
      · intro _
        exact .nil
      · intro _
        exact ⟨by simp, .nil⟩
  | cons first later ih =>
      rw [legible_cons_iff, ih, List.flatMap_cons, List.map_cons, ← written_piece]
      have laterPlain (more : Decomposes delimiters (later.flatMap (written delimiters))
          (later.map piece)) : ∀ second ∈ later.head?, second.Plain delimiters :=
        fun second member => (ih.2 more).each second (List.mem_of_mem_head? member)
      constructor
      · rintro ⟨plain, here, more⟩
        exact more.cons ((fits_piece_iff (laterPlain more)).mpr ⟨plain, here⟩)
      · intro decomposes
        rcases decomposes.exists_rest with ⟨rest, same, fits, more⟩
        obtain rfl := List.append_cancel_left same
        rcases (fits_piece_iff (laterPlain more)).mp fits with ⟨plain, here⟩
        exact ⟨plain, here, more⟩

end

end Segment

/-! ## Lengths -/

namespace Template.Piece

variable {delimiters : Delimiters}

/-- A piece is at least as long as its segment is written. -/
theorem length_written_segment_le (delimiters : Delimiters) (piece : Piece) :
    (piece.segment.written delimiters).length ≤ (piece.written delimiters).length := by
  cases piece with
  | code fragment => exact Nat.le_refl _
  | literal units =>
      simpa [segment, written] using LiteralUnit.length_le_length_writtenAll delimiters units

/-- A piece that is no longer than its segment is written has no escape. -/
theorem piece_segment_of_length_le {piece : Piece}
    (short : (piece.written delimiters).length ≤ (piece.segment.written delimiters).length) :
    piece.segment.piece = piece := by
  cases piece with
  | code fragment => rfl
  | literal units =>
      simp only [segment, written, Segment.written_literal, List.length_map] at short
      have units := LiteralUnit.map_plain_meant_of_length_le short
      rw [segment, Segment.piece, List.map_map]
      exact congrArg Piece.literal units

theorem length_flatMap_written_segment_le (delimiters : Delimiters) (pieces : List Piece) :
    ((pieces.map segment).flatMap (Segment.written delimiters)).length ≤
      (pieces.flatMap (written delimiters)).length := by
  induction pieces with
  | nil => simp
  | cons piece later ih =>
      have here := piece.length_written_segment_le delimiters
      simp only [List.map_cons, List.flatMap_cons, List.length_append]
      omega

/-- Pieces that together are no longer than their segments are written have no
escape. -/
theorem map_piece_segment_of_length_le {pieces : List Piece}
    (short : (pieces.flatMap (written delimiters)).length ≤
      ((pieces.map segment).flatMap (Segment.written delimiters)).length) :
    (pieces.map segment).map Segment.piece = pieces := by
  induction pieces with
  | nil => rfl
  | cons piece later ih =>
      have here := piece.length_written_segment_le delimiters
      have behind := length_flatMap_written_segment_le delimiters later
      simp only [List.map_cons, List.flatMap_cons, List.length_append] at short ⊢
      have first : piece.segment.piece = piece :=
        piece_segment_of_length_le (show (piece.written delimiters).length ≤ _ by omega)
      rw [first, ih (by omega)]

end Template.Piece

/-! ## The round trip -/

/-- Parsing the display form without a joiner gives back the displayed segments
exactly if they are legible. -/
theorem Segment.parse_display_eq_ok_iff_legible (delimiters : Delimiters) (scope : Scope)
    (segments : List Segment) (nonempty : segments ≠ []) :
    Segment.parse delimiters (Template.display ⟨segments, [], scope, delimiters⟩) = .ok segments ↔
      Segment.Legible delimiters segments := by
  rw [Template.display_of_joiner_eq_nil rfl, Segment.legible_iff_decomposes]
  constructor
  · intro parsed
    by_cases shown : segments.flatMap (Segment.written delimiters) = []
    · rw [shown] at parsed
      contradiction
    · rcases (parse_eq_ok_iff shown).mp parsed with ⟨pieces, decomposes, rfl⟩
      have verbatim := Piece.map_piece_segment_of_length_le
        (le_of_eq (congrArg List.length decomposes.eq_flatMap_written).symm)
      rwa [verbatim]
  · intro decomposes
    have shown : segments.flatMap (Segment.written delimiters) ≠ [] := by
      rcases List.exists_cons_of_ne_nil nonempty with ⟨first, later, rfl⟩
      exact decomposes.ne_nil
    rw [parse_of_decomposes shown decomposes, List.map_map]
    simp [Function.comp_def]

/-- A literal that begins like a name is not given back directly behind a
fragment without one. -/
theorem Segment.parse_display_anonymous :
    [Segment.code ⟨['a'], none⟩, .literal ['(']] ≠ [] ∧
      Segment.parse {} (Template.display ⟨[.code ⟨['a'], none⟩, .literal ['(']], [], .build, {}⟩) ≠
        .ok [.code ⟨['a'], none⟩, .literal ['(']] := by
  refine ⟨by simp, ?_⟩
  intro parsed
  have legible := (Segment.parse_display_eq_ok_iff_legible {} .build _ (by simp)).1 parsed
  exact (List.isChain_cons_cons.mp legible.neighbours).1.names ['a'] rfl rfl

end Inlay
