import Inlay.Proofs.Template.Grammar
import Inlay.Template.Basic

/-!
# What the display form leaves out

Every character of a source is taken by some piece.  In a literal it may be taken
as an escape: then it does not stand for itself, but makes the character behind it
do so.  Writing the segments puts everything else back in its place, delimiters,
code and names; so the display form of a parsed source is the source without the
characters that were taken as escapes.
-/

namespace Inlay

namespace Template

/-! ## What is taken -/

/-- A character of a source, and whether it is taken as an escape. -/
structure Taken where
  char : Char
  escape : Bool
  deriving DecidableEq

namespace Taken

/-- The characters of a text, none of them an escape. -/
def plain (text : Text) : List Taken :=
  text.map fun c => ⟨c, false⟩

/-- All the characters. -/
def all (taken : List Taken) : Text :=
  taken.map char

/-- The characters that are no escapes. -/
def kept (taken : List Taken) : Text :=
  all (taken.filter fun one => !one.escape)

variable {taken : List Taken}

@[simp]
theorem all_plain (text : Text) : all (plain text) = text := by
  simp [all, plain, Function.comp_def]

@[simp]
theorem kept_plain (text : Text) : kept (plain text) = text := by
  simp [kept, all, plain, Function.comp_def, List.filter_map]

@[simp]
theorem not_escape_of_mem_plain {text : Text} {one : Taken} (member : one ∈ plain text) :
    one.escape = false := by
  obtain ⟨c, _, rfl⟩ := List.mem_map.mp member
  rfl

theorem all_flatMap {α : Type} (takes : α → List Taken) (row : List α) :
    all (row.flatMap takes) = row.flatMap fun one => all (takes one) := by
  simp [all, List.map_flatMap]

theorem kept_flatMap {α : Type} (takes : α → List Taken) (row : List α) :
    kept (row.flatMap takes) = row.flatMap fun one => kept (takes one) := by
  simp [kept, all, List.map_flatMap, List.filter_flatMap]

/-- Without escapes, and only then, all the characters are kept. -/
theorem kept_eq_all_iff : kept taken = all taken ↔ ∀ one ∈ taken, one.escape = false := by
  constructor
  · intro same
    have lengths := congrArg List.length same
    simp only [kept, all, List.length_map, List.length_filter_eq_length_iff] at lengths
    simpa using lengths
  · intro none
    have every : taken.filter (fun one => !one.escape) = taken :=
      List.filter_eq_self.mpr fun one member => by simp [none one member]
    rw [kept, every]

end Taken

end Template

open Template

/-- What the unit takes. -/
def LiteralUnit.taken (delimiters : Delimiters) : LiteralUnit → List Taken
  | plain c => [⟨c, false⟩]
  | escaped c => [⟨delimiters.escape, true⟩, ⟨c, false⟩]

namespace Template

namespace Piece

/-- What the piece takes.  Nothing in a fragment is an escape. -/
def taken (delimiters : Delimiters) : Piece → List Taken
  | literal units => units.flatMap (LiteralUnit.taken delimiters)
  | code fragment => Taken.plain (fragment.written delimiters)

/-- A piece takes what it is written with. -/
theorem all_taken (delimiters : Delimiters) (piece : Piece) :
    Taken.all (piece.taken delimiters) = piece.written delimiters := by
  cases piece with
  | code fragment => exact Taken.all_plain _
  | literal units =>
      have each : (fun unit => Taken.all (LiteralUnit.taken delimiters unit)) =
          LiteralUnit.written delimiters := by
        funext unit
        cases unit <;> rfl
      rw [taken, Taken.all_flatMap, each]
      rfl

/-- Without the escapes it is its segment that is written. -/
theorem kept_taken (delimiters : Delimiters) (piece : Piece) :
    Taken.kept (piece.taken delimiters) = piece.segment.written delimiters := by
  cases piece with
  | code fragment => exact Taken.kept_plain _
  | literal units =>
      have each : (fun unit => Taken.kept (LiteralUnit.taken delimiters unit)) =
          fun unit => [unit.meant] := by
        funext unit
        cases unit <;> rfl
      rw [taken, Taken.kept_flatMap, each, ← List.map_eq_flatMap]
      rfl

/-- Only the escape is taken as an escape, and not where it opens code. -/
theorem Fits.of_escape {delimiters : Delimiters} {rest : Text} {piece : Piece}
    (fits : piece.Fits delimiters rest) {one : Taken} (member : one ∈ piece.taken delimiters)
    (escape : one.escape = true) :
    one.char = delimiters.escape ∧ delimiters.escape ≠ delimiters.codeOpen := by
  cases piece with
  | code fragment => simp [Taken.not_escape_of_mem_plain member] at escape
  | literal units =>
      obtain ⟨unit, here, member⟩ := List.mem_flatMap.mp member
      have valid := fits.2.1 unit here
      cases unit with
      | plain c =>
          obtain rfl := List.mem_singleton.mp member
          contradiction
      | escaped c =>
          simp only [LiteralUnit.taken, List.mem_cons, List.not_mem_nil, or_false] at member
          rcases member with rfl | rfl
          · exact ⟨rfl, valid⟩
          · contradiction

end Piece

variable {delimiters : Delimiters} {source : Text} {pieces : List Piece}

/-! ## The display form -/

theorem Decomposes.all_taken (decomposes : Decomposes delimiters source pieces) :
    Taken.all (pieces.flatMap (Piece.taken delimiters)) = source := by
  rw [decomposes.eq_flatMap_written, Taken.all_flatMap]
  simp only [Piece.all_taken]

theorem Decomposes.of_escape (decomposes : Decomposes delimiters source pieces) {one : Taken}
    (member : one ∈ pieces.flatMap (Piece.taken delimiters)) (escape : one.escape = true) :
    one.char = delimiters.escape ∧ delimiters.escape ≠ delimiters.codeOpen := by
  induction pieces generalizing source with
  | nil => contradiction
  | cons piece later ih =>
      obtain ⟨rest, _, fits, more⟩ := decomposes.exists_rest
      rw [List.flatMap_cons, List.mem_append] at member
      rcases member with here | behind
      · exact fits.of_escape here escape
      · exact ih more behind

/-- The display form of pieces is what they take without the escapes. -/
theorem display_of_pieces (delimiters : Delimiters) (pieces : List Piece) :
    display { segments := pieces.map Piece.segment, delimiters } =
      Taken.kept (pieces.flatMap (Piece.taken delimiters)) := by
  rw [display_of_joiner_eq_nil rfl, Taken.kept_flatMap, List.flatMap_map]
  simp only [Piece.kept_taken]

theorem parse_eq_ok_iff_segments {template : Template} :
    parse delimiters source = .ok template ↔
      ∃ segments, Segment.parse delimiters source = .ok segments ∧
        template = { segments, delimiters } := by
  rw [parse]
  cases parsed : Segment.parse delimiters source with
  | error fault => simp [bind, Except.bind]
  | ok segments => simp [bind, Except.bind, pure, Except.pure, eq_comm]

/-- The display form of a parsed source is the source without the characters that
were taken as escapes when its pieces were read, and all the others in order.  So
it is the source just when none was, as in a source without the escape, or where
the escape opens code. -/
theorem display_leaves_out_escapes (delimiters : Delimiters) (source : Text) (template : Template)
    (parsed : parse delimiters source = .ok template) :
    ∃ pieces, readPieces delimiters source = .ok pieces ∧
      template.segments = pieces.map Piece.segment ∧
      let taken := pieces.flatMap (Piece.taken delimiters)
      Taken.all taken = source ∧
      template.display = Taken.kept taken ∧
      (∀ one ∈ taken, one.escape = true → one.char = delimiters.escape) ∧
      (template.display = source ↔ ∀ one ∈ taken, one.escape = false) ∧
      (delimiters.escape ∉ source ∨ delimiters.escape = delimiters.codeOpen →
        template.display = source) := by
  obtain ⟨segments, parsedSegments, rfl⟩ := parse_eq_ok_iff_segments.mp parsed
  have nonempty : source ≠ [] := by
    rintro rfl
    contradiction
  obtain ⟨pieces, decomposes, rfl⟩ := (parse_eq_ok_iff nonempty).mp parsedSegments
  have whole := decomposes.all_taken
  have unchanged : display { segments := pieces.map Piece.segment, delimiters } = source ↔
      ∀ one ∈ pieces.flatMap (Piece.taken delimiters), one.escape = false := by
    rw [display_of_pieces, ← Taken.kept_eq_all_iff, whole]
  refine ⟨pieces, (readPieces_eq_ok_iff nonempty).mpr decomposes, rfl, whole,
    display_of_pieces delimiters pieces, ?_, unchanged, ?_⟩
  · intro one member escape
    exact (decomposes.of_escape member escape).1
  · intro unused
    rw [unchanged]
    intro one member
    rw [Bool.eq_false_iff]
    intro escape
    obtain ⟨same, closed⟩ := decomposes.of_escape member escape
    rcases unused with absent | opens
    · have inside : one.char ∈ Taken.all (pieces.flatMap (Piece.taken delimiters)) :=
        List.mem_map_of_mem member
      rw [whole, same] at inside
      exact absent inside
    · exact closed opens

/-- An escaped delimiter and an escaped escape, and between them code that ends in
an escape and has a blank name. -/
theorem display_leaves_out_escapes_blank_name :
    let source := ['\\', '\x60', 'é', '\x60', 'a', '\\', '\x60', '(', ' ', ')', '\\', '\\']
    let segments : List Segment := [.literal ['\x60', 'é'], .code ⟨['a', '\\'], some [' ']⟩,
      .literal ['\\']]
    parse {} source = .ok { segments } ∧
      display { segments } =
        ['\x60', 'é', '\x60', 'a', '\\', '\x60', '(', ' ', ')', '\\'] := by
  intro source segments
  have parsed : parse {} source = .ok { segments } := by rfl
  obtain ⟨pieces, read, -, -, shown, -⟩ := display_leaves_out_escapes {} source _ parsed
  have known : readPieces {} source = .ok [.literal [.escaped '\x60', .plain 'é'],
      .code ⟨['a', '\\'], some [' ']⟩, .literal [.escaped '\\']] := by rfl
  obtain rfl := Except.ok.inj (known.symm.trans read)
  exact ⟨parsed, shown⟩

end Template

end Inlay
