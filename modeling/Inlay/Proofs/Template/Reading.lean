import Inlay.Proofs.Cursor.Scanning
import Inlay.Proofs.Template.Stumps
import Inlay.Template.Reader

/-!
# Reading pieces

In front of every text a reader does one of two things.  Either the text
begins with a piece that the grammar allows there, and the reader takes it, or
the text is a stump, and the reader runs out.  For each reader one lemma says
what it takes, and others where it runs out.  Reading everything inherits both
from reading one piece, by induction on the pieces.

A segment does not tell which characters of a literal were escaped.  So pieces
are read, and a segment is what its piece stands for; reading segments is reading
pieces and forgetting the rest.
-/

namespace Inlay

open Cursor Template

variable {delimiters : Delimiters} {rest : Text}

namespace Fragment

/-! ## Fragments -/

/-- Read the name of a fragment, if one is opened. -/
def readName (delimiters : Delimiters) : Scan (Option Text) := do
  match ← accept delimiters.nameOpen with
  | none => pure none
  | some _ => some <$> readThrough delimiters.nameClose

/-- A fragment is read in two parts, its code and its name. -/
theorem readBody_eq (delimiters : Delimiters) :
    readBody delimiters = (do
      let code ← readThrough delimiters.codeClose
      Fragment.mk code <$> readName delimiters) := by
  simp only [readBody, readThrough, readName, bind_assoc, pure_bind]
  congr
  funext code
  congr
  funext _
  rw [map_bind]
  congr
  funext opened
  cases opened with
  | none => simp
  | some c => simp

/-- A name is read as it is written, and none where none is opened. -/
theorem takes_readName {name : Option Text}
    (closed : ∀ text, name = some text → delimiters.nameClose ∉ text)
    (ends : name = none → rest.head? ≠ some delimiters.nameOpen) :
    Takes (readName delimiters) name (writtenName delimiters name) rest := by
  cases name with
  | none =>
      have nothing : Takes (accept delimiters.nameOpen) none [] ([] ++ rest) :=
        takes_accept_none (ends rfl)
      rw [readName]
      exact nothing.bind (Takes.pure none rest)
  | some name =>
      have opened := takes_accept delimiters.nameOpen (name ++ [delimiters.nameClose] ++ rest)
      rw [readName]
      exact opened.bind ((takes_readThrough (closed name rfl) rest).map some)

/-- A name that is not closed runs out. -/
theorem runsOut_readName {text : Text} (absent : delimiters.nameClose ∉ text) :
    RunsOut (readName delimiters) (delimiters.nameOpen :: text) := by
  rw [readName]
  exact (takes_accept delimiters.nameOpen text).bind_runsOut ((runsOut_readThrough absent).map some)

/-- A fragment is read as it is written, unless a name opens behind it that is
not its own. -/
theorem takes_readBody {fragment : Fragment} (closed : fragment.Closed delimiters)
    (ends : fragment.EndsBefore delimiters rest) :
    Takes (readBody delimiters) fragment (fragment.body delimiters) rest := by
  have parts : fragment.body delimiters =
      (fragment.code ++ [delimiters.codeClose]) ++ writtenName delimiters fragment.name := by
    simp [body]
  rw [readBody_eq, parts]
  exact (takes_readThrough closed.code _).bind
    ((takes_readName closed.name ends).map (Fragment.mk fragment.code))

/-- Code that is not closed runs out. -/
theorem runsOut_readBody {text : Text} (absent : delimiters.codeClose ∉ text) :
    RunsOut (readBody delimiters) text := by
  rw [readBody_eq]
  exact (runsOut_readThrough absent).bind

/-- So does code with a name that is not closed. -/
theorem runsOut_readBody_name {inside text : Text} (absent : delimiters.codeClose ∉ inside)
    (nameAbsent : delimiters.nameClose ∉ text) :
    RunsOut (readBody delimiters)
      (inside ++ delimiters.codeClose :: delimiters.nameOpen :: text) := by
  have parts : inside ++ delimiters.codeClose :: delimiters.nameOpen :: text =
      (inside ++ [delimiters.codeClose]) ++ delimiters.nameOpen :: text := by simp
  rw [readBody_eq, parts]
  exact (takes_readThrough absent _).bind_runsOut
    ((runsOut_readName nameAbsent).map (Fragment.mk inside))

end Fragment

namespace Segment

/-! ## Literals -/

/-- Where literal text does not stop, it ends in an escape that has nothing to
stand for. -/
def readStop (delimiters : Delimiters) : Scan Unit := do
  match ← peek with
  | none => pure ()
  | some c =>
      if c = delimiters.codeOpen then
        pure ()
      else
        discard read
        discard read

/-- Read literal text up to where it may stop, and keep its units. -/
def readLiteralUnits (delimiters : Delimiters) : Scan (List LiteralUnit) := do
  let units ← readUnits delimiters
  (fun _ => units) <$> readStop delimiters

/-- A literal is what its units mean. -/
theorem readLiteral_eq (delimiters : Delimiters) :
    readLiteral delimiters =
      (fun units => literal (units.map LiteralUnit.meant)) <$> readLiteralUnits delimiters := by
  rw [readLiteral, readLiteralUnits, map_bind]
  congr
  funext units
  rw [readStop, map_bind, map_bind]
  congr
  funext next
  cases next with
  | none => rfl
  | some c =>
      by_cases opens : c = delimiters.codeOpen
      · simp [opens]
      · simp [opens]

theorem takes_readUnits {text rest : Text} {units : List LiteralUnit}
    (splits : LiteralUnit.split delimiters text = (units, rest)) :
    Takes (readUnits delimiters) units (LiteralUnit.writtenAll delimiters units) rest := by
  intro cursor comes
  have whole := LiteralUnit.writtenAll_split delimiters text
  rw [splits] at whole
  simp only [readUnits, comes, whole, splits]

theorem takes_readStop (stops : LiteralUnit.Stops delimiters rest) :
    Takes (readStop delimiters) () [] rest := by
  have seen : Takes peek rest.head? [] ([] ++ rest) := takes_peek rest
  rw [readStop]
  apply seen.bind
  rcases stops with rfl | opens
  · exact Takes.pure () []
  · rw [opens]
    simpa using Takes.pure () rest

theorem runsOut_readStop (closed : delimiters.escape ≠ delimiters.codeOpen) :
    RunsOut (readStop delimiters) [delimiters.escape] := by
  have seen := takes_peek [delimiters.escape]
  have escape := (takes_read delimiters.escape []).discard
  rw [readStop]
  apply seen.bind_runsOut
  simp only [List.head?_cons, closed, if_false]
  exact escape.bind_runsOut runsOut_read.discard

/-- Units are read as they are written, up to where literal text may stop. -/
theorem takes_readLiteralUnits {units : List LiteralUnit}
    (valid : ∀ unit ∈ units, unit.Valid delimiters) (stops : LiteralUnit.Stops delimiters rest) :
    Takes (readLiteralUnits delimiters) units (LiteralUnit.writtenAll delimiters units) rest := by
  have taken : Takes (readUnits delimiters) units (LiteralUnit.writtenAll delimiters units)
      ([] ++ rest) := takes_readUnits (LiteralUnit.split_writtenAll_append valid stops)
  rw [readLiteralUnits, ← List.append_nil (LiteralUnit.writtenAll delimiters units)]
  exact taken.bind ((takes_readStop stops).map _)

/-- Behind an escape with nothing to stand for they run out. -/
theorem runsOut_readLiteralUnits {units : List LiteralUnit}
    (closed : delimiters.escape ≠ delimiters.codeOpen)
    (valid : ∀ unit ∈ units, unit.Valid delimiters) :
    RunsOut (readLiteralUnits delimiters)
      (LiteralUnit.writtenAll delimiters units ++ [delimiters.escape]) := by
  have splits : LiteralUnit.split delimiters
      (LiteralUnit.writtenAll delimiters units ++ [delimiters.escape]) =
        (units, [delimiters.escape]) := by
    rw [LiteralUnit.split_writtenAll valid, LiteralUnit.split_escape, List.append_nil]
  rw [readLiteralUnits]
  exact (takes_readUnits splits).bind_runsOut ((runsOut_readStop closed).map _)

end Segment

/-! ## Pieces -/

namespace Template.Piece

/-- Read one piece. -/
def readNext (delimiters : Delimiters) : Scan Piece := do
  match ← accept delimiters.codeOpen with
  | some _ => code <$> Fragment.readBody delimiters
  | none => literal <$> Segment.readLiteralUnits delimiters

/-- Read one piece, unless the end is reached. -/
def readNext? (delimiters : Delimiters) : Scan (Option Piece) := do
  match ← peek with
  | none => pure none
  | some _ => some <$> readNext delimiters

/-- Read all pieces up to the end. -/
def readAll (delimiters : Delimiters) : Scan (List Piece) :=
  many (readNext? delimiters)

/-- A piece is read where it fits. -/
theorem takes_readNext {piece : Piece} (fits : piece.Fits delimiters rest) :
    Takes (readNext delimiters) piece (piece.written delimiters) rest := by
  rw [readNext]
  cases piece with
  | code fragment =>
      have body := (Fragment.takes_readBody fits.1 fits.2).map code
      exact (takes_accept delimiters.codeOpen _).bind body
  | literal units =>
      have noCode : Takes (accept delimiters.codeOpen) none []
          (LiteralUnit.writtenAll delimiters units ++ rest) :=
        takes_accept_none (head?_written_literal_ne fits rest)
      exact noCode.bind ((Segment.takes_readLiteralUnits fits.2.1 fits.2.2).map literal)

/-- Nothing is read in front of a stump. -/
theorem runsOut_readNext {stump : Stump} (waits : stump.Open delimiters) :
    RunsOut (readNext delimiters) (stump.written delimiters) := by
  rw [readNext]
  cases stump with
  | code text =>
      have body := (Fragment.runsOut_readBody waits).map code
      exact (takes_accept delimiters.codeOpen _).bind_runsOut body
  | name inside text =>
      have body := (Fragment.runsOut_readBody_name waits.1 waits.2).map code
      exact (takes_accept delimiters.codeOpen _).bind_runsOut body
  | escape units =>
      have noCode : Takes (accept delimiters.codeOpen) none []
          (LiteralUnit.writtenAll delimiters units ++ [delimiters.escape]) := by
        apply takes_accept_none
        cases units with
        | nil => simpa using waits.1
        | cons unit others =>
            have fits : (literal (unit :: others)).Fits delimiters [] :=
              ⟨List.cons_ne_nil unit others, waits.2, .inl rfl⟩
            exact head?_written_literal_ne fits [delimiters.escape]
      have out := (Segment.runsOut_readLiteralUnits waits.1 waits.2).map literal
      exact noCode.bind_runsOut out

/-! ## Whole texts -/

theorem takes_readNext?_none : Takes (readNext? delimiters) none [] [] := by
  have seen : Takes peek none [] ([] ++ []) := takes_peek []
  rw [readNext?]
  exact seen.bind (Takes.pure none [])

theorem takes_readNext?_some {piece : Piece} (fits : piece.Fits delimiters rest) :
    Takes (readNext? delimiters) (some piece) (piece.written delimiters) rest := by
  obtain ⟨c, more, same⟩ := List.exists_cons_of_ne_nil (written_ne_nil fits)
  have seen : Takes peek (some c) [] (piece.written delimiters ++ rest) := by
    simpa [same] using takes_peek (piece.written delimiters ++ rest)
  rw [readNext?]
  exact seen.bind ((takes_readNext fits).map some)

theorem runsOut_readNext? {text : Text} (nonempty : text ≠ [])
    (out : RunsOut (readNext delimiters) text) : RunsOut (readNext? delimiters) text := by
  obtain ⟨c, more, rfl⟩ := List.exists_cons_of_ne_nil nonempty
  have seen : Takes peek (some c) [] (c :: more) := takes_peek (c :: more)
  rw [readNext?]
  exact seen.bind_runsOut (out.map some)

/-- Reading a piece takes a character, unless the end is reached. -/
theorem progressive_readNext? (delimiters : Delimiters) : Progressive (readNext? delimiters) where
  ends := fun cursor ended => takes_readNext?_none ended
  takes := by
    intro cursor piece next gives
    by_cases ended : cursor.after = []
    · have nothing : readNext? delimiters cursor = .ok none cursor := takes_readNext?_none ended
      rw [nothing] at gives
      cases gives
    · rcases piece_or_stump delimiters ended with ⟨piece, rest, fits, comes⟩ | ⟨stump, waits, comes⟩
      · rw [takes_readNext?_some fits comes] at gives
        rcases EStateM.Result.ok.inj gives with ⟨_, rfl⟩
        have positive := List.length_pos_iff.mpr (written_ne_nil fits)
        rw [after_pass comes, comes, List.length_append]
        omega
      · have out := runsOut_readNext? (stump.written_ne_nil delimiters) (runsOut_readNext waits)
        rw [out comes] at gives
        cases gives

theorem readAll_eq (delimiters : Delimiters) :
    readAll delimiters = readNext? delimiters >>= manyAfter (readNext? delimiters) :=
  (progressive_readNext? delimiters).many_eq

/-- A text is read into its pieces. -/
theorem takes_readAll {text : Text} {pieces : List Piece}
    (decomposes : Decomposes delimiters text pieces) :
    Takes (readAll delimiters) pieces text [] := by
  induction pieces generalizing text with
  | nil =>
      obtain rfl : text = [] := decomposes.eq_flatMap_written
      have nothing : Takes (readNext? delimiters) none [] ([] ++ []) := takes_readNext?_none
      rw [readAll_eq]
      exact nothing.bind (Takes.pure [] [])
  | cons piece later ih =>
      rcases decomposes.exists_rest with ⟨rest, rfl, fits, more⟩
      have first : Takes (readNext? delimiters) (some piece) (piece.written delimiters)
          (rest ++ []) := by
        rw [List.append_nil]
        exact takes_readNext?_some fits
      rw [readAll_eq]
      exact first.bind ((ih more).map _)

/-- A text that breaks off is not read to its end. -/
theorem runsOut_readAll {text : Text} {pieces : List Piece} {stump : Stump}
    (breaks : BreaksOff delimiters text pieces stump) : RunsOut (readAll delimiters) text := by
  rw [readAll_eq]
  induction breaks with
  | @stump stump waits =>
      exact (runsOut_readNext? (stump.written_ne_nil delimiters) (runsOut_readNext waits)).bind
  | cons fits more ih =>
      rw [← readAll_eq] at ih
      exact (takes_readNext?_some fits).bind_runsOut (ih.map _)

end Template.Piece

/-! ## Segments -/

namespace Segment

theorem readNext_eq (delimiters : Delimiters) :
    readNext delimiters = Piece.segment <$> Piece.readNext delimiters := by
  rw [readNext, Piece.readNext, map_bind]
  congr
  funext opened
  cases opened with
  | none => simp [readLiteral_eq, Piece.segment]
  | some c => simp [Piece.segment]

theorem readNext?_eq (delimiters : Delimiters) :
    readNext? delimiters = Option.map Piece.segment <$> Piece.readNext? delimiters := by
  rw [readNext?, Piece.readNext?, map_bind]
  congr
  funext seen
  cases seen with
  | none => rfl
  | some c => simp [readNext_eq]

/-- Reading a segment takes a character, unless the end is reached. -/
theorem progressive_readNext? (delimiters : Delimiters) :
    Progressive (readNext? delimiters) := by
  rw [readNext?_eq]
  exact (Piece.progressive_readNext? delimiters).map Piece.segment

/-- Reading segments is reading pieces. -/
theorem readAll_eq (delimiters : Delimiters) :
    readAll delimiters = List.map Piece.segment <$> Piece.readAll delimiters := by
  rw [readAll, readNext?_eq, many_map, Piece.readAll]

/-- A piece is read where it fits, and gives the segment it stands for. -/
theorem takes_readNext {piece : Piece} (fits : piece.Fits delimiters rest) :
    Takes (readNext delimiters) piece.segment (piece.written delimiters) rest := by
  rw [readNext_eq]
  exact (Piece.takes_readNext fits).map Piece.segment

/-- Nothing is read in front of a stump. -/
theorem runsOut_readNext {stump : Stump} (waits : stump.Open delimiters) :
    RunsOut (readNext delimiters) (stump.written delimiters) := by
  rw [readNext_eq]
  exact (Piece.runsOut_readNext waits).map Piece.segment

end Segment

end Inlay
