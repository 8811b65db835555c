import Inlay.Proofs.Cursor.Reading
import Inlay.Proofs.Template.Grammar

/-!
# Readers called by hand

Segments are usually read one after the other up to the end, but the readers may
also be called by hand, in any order and also behind failures.  A call may then
begin anywhere, inside of code or of a literal, and nothing is known about the
text in front of it.

Nothing has to be known.  In front of every text a reader either takes a run that
tells what it gives, or it runs out and is at the end.  So calls only go forward
in the source, and reading everything that is left by then is parsing a source of
its own.
-/

namespace Inlay

open Cursor Template Sequence

/-- A reader that may be called by hand. -/
inductive Reader where
  /-- The next segment, whatever it is. -/
  | segment
  /-- Literal text. -/
  | literal
  /-- A fragment whose opening delimiter was taken already. -/
  | body
  deriving DecidableEq

namespace Reader

variable {delimiters : Delimiters} {reader : Reader} {segment : Segment} {run rest : Text}

def scan (delimiters : Delimiters) : Reader → Scan Segment
  | .segment => Segment.readNext delimiters
  | .literal => Segment.readLiteral delimiters
  | .body => .code <$> Fragment.readBody delimiters

/-! ## What is given for what is taken -/

/-- In front of the rest, the reader gives the segment for the run: for valid
units of literal text, up to where literal text stops, what they mean; for the
body of a fragment, with a name exactly when one is opened behind its code, the
fragment.  The next segment is a fragment where code is opened. -/
inductive Gives (delimiters : Delimiters) (rest : Text) : Reader → Segment → Text → Prop
  | literal {units : List LiteralUnit} (valid : ∀ unit ∈ units, unit.Valid delimiters)
      (stops : LiteralUnit.Stops delimiters rest) :
      Gives delimiters rest .literal (.literal (units.map LiteralUnit.meant))
        (LiteralUnit.writtenAll delimiters units)
  | body {fragment : Fragment} (closed : fragment.Closed delimiters)
      (ends : fragment.EndsBefore delimiters rest) :
      Gives delimiters rest .body (.code fragment) (fragment.body delimiters)
  | opened {segment : Segment} {run : Text} (gives : Gives delimiters rest .body segment run) :
      Gives delimiters rest .segment segment (delimiters.codeOpen :: run)
  | unopened {segment : Segment} {run : Text}
      (noCode : (run ++ rest).head? ≠ some delimiters.codeOpen)
      (gives : Gives delimiters rest .literal segment run) :
      Gives delimiters rest .segment segment run

theorem takes_segment_opened (takes : Takes (body.scan delimiters) segment run rest) :
    Takes (Reader.segment.scan delimiters) segment (delimiters.codeOpen :: run) rest :=
  (takes_accept delimiters.codeOpen (run ++ rest)).bind takes

theorem takes_segment_unopened (noCode : (run ++ rest).head? ≠ some delimiters.codeOpen)
    (takes : Takes (Reader.literal.scan delimiters) segment run rest) :
    Takes (Reader.segment.scan delimiters) segment run rest := by
  have nothing : Takes (accept delimiters.codeOpen) none [] (run ++ rest) :=
    takes_accept_none noCode
  exact nothing.bind takes

theorem Gives.takes (gives : Gives delimiters rest reader segment run) :
    Takes (reader.scan delimiters) segment run rest := by
  induction gives with
  | literal valid stops =>
      rw [scan, Segment.readLiteral_eq]
      exact (Segment.takes_readLiteralUnits valid stops).map _
  | body closed ends => exact (Fragment.takes_readBody closed ends).map _
  | opened gives ih => exact takes_segment_opened ih
  | unopened noCode gives ih => exact takes_segment_unopened noCode ih

/-! ## Giving something or running out -/

theorem literal_gives_or_runsOut (delimiters : Delimiters) (text : Text) :
    (∃ segment run rest, text = run ++ rest ∧ Gives delimiters rest .literal segment run) ∨
      RunsOut (literal.scan delimiters) text := by
  have whole := LiteralUnit.writtenAll_split delimiters text
  have valid : ∀ unit ∈ (LiteralUnit.split delimiters text).1, unit.Valid delimiters :=
    fun _ member => LiteralUnit.valid_of_mem_split member
  rcases LiteralUnit.split_stops_or_escape delimiters text with stops | ⟨alone, closed⟩
  · exact .inl ⟨_, _, _, whole.symm, .literal valid stops⟩
  · rw [alone] at whole
    rw [← whole, scan, Segment.readLiteral_eq]
    exact .inr ((Segment.runsOut_readLiteralUnits closed valid).map _)

theorem body_gives_or_runsOut (delimiters : Delimiters) (text : Text) :
    (∃ segment run rest, text = run ++ rest ∧ Gives delimiters rest .body segment run) ∨
      RunsOut (body.scan delimiters) text := by
  rcases body_or_unclosed delimiters text with
    ⟨fragment, rest, closed, ends, rfl⟩ | absent | ⟨inside, name, absent, nameAbsent, rfl⟩
  · exact .inl ⟨_, _, rest, rfl, .body closed ends⟩
  · exact .inr ((Fragment.runsOut_readBody absent).map _)
  · exact .inr ((Fragment.runsOut_readBody_name absent nameAbsent).map _)

/-- In front of every text a reader gives a segment for some of it, or it runs
out. -/
theorem gives_or_runsOut (delimiters : Delimiters) (reader : Reader) (text : Text) :
    (∃ segment run rest, text = run ++ rest ∧ Gives delimiters rest reader segment run) ∨
      RunsOut (reader.scan delimiters) text := by
  cases reader with
  | literal => exact literal_gives_or_runsOut delimiters text
  | body => exact body_gives_or_runsOut delimiters text
  | segment =>
      by_cases opens : text.head? = some delimiters.codeOpen
      · obtain ⟨behind, rfl⟩ := List.head?_eq_some_iff.mp opens
        rcases body_gives_or_runsOut delimiters behind with ⟨segment, run, rest, rfl, gives⟩ | out
        · exact .inl ⟨segment, _, rest, rfl, .opened gives⟩
        · exact .inr ((takes_accept delimiters.codeOpen behind).bind_runsOut out)
      · rcases literal_gives_or_runsOut delimiters text with ⟨segment, run, rest, rfl, gives⟩ | out
        · exact .inl ⟨segment, run, rest, rfl, .unopened opens gives⟩
        · have nothing : Takes (accept delimiters.codeOpen) none [] text := takes_accept_none opens
          exact .inr (nothing.bind_runsOut out)

/-- A call gives a segment for the text that it takes, or it takes everything
because the source ends too early. -/
theorem scan_cases (delimiters : Delimiters) (reader : Reader) (cursor : Cursor) :
    (∃ segment run reached, reader.scan delimiters cursor = .ok segment reached ∧
      Reads cursor run reached ∧ Gives delimiters reached.after reader segment run) ∨
    ∃ reached, reader.scan delimiters cursor = .error (.endOfInput cursor.length) reached ∧
      Reads cursor cursor.after reached := by
  rcases gives_or_runsOut delimiters reader cursor.after with
    ⟨segment, run, rest, comes, gives⟩ | out
  · refine .inl ⟨segment, run, cursor.pass run rest, gives.takes comes, .pass comes, ?_⟩
    rwa [after_pass comes]
  · exact .inr ⟨_, out rfl, .pass (List.append_nil cursor.after).symm⟩

/-- What a call takes tells the segment that it gives. -/
theorem reads_of_scan_eq_ok {cursor reached : Cursor}
    (gives : reader.scan delimiters cursor = .ok segment reached) :
    ∃ run, Reads cursor run reached ∧ Gives delimiters reached.after reader segment run := by
  rcases reader.scan_cases delimiters cursor with
    ⟨_, run, _, givesToo, reads, given⟩ | ⟨_, fails, _⟩
  · rw [gives] at givesToo
    cases givesToo
    exact ⟨run, reads, given⟩
  · rw [gives] at fails
    contradiction

/-- A call that fails has come to the end of the source. -/
theorem reads_of_scan_eq_error {cursor reached : Cursor} {fault : Fault}
    (fails : reader.scan delimiters cursor = .error fault reached) :
    fault = .endOfInput cursor.length ∧ Reads cursor cursor.after reached := by
  rcases reader.scan_cases delimiters cursor with
    ⟨_, _, _, gives, _, _⟩ | ⟨_, failsToo, reads⟩
  · rw [fails] at gives
    contradiction
  · rw [fails] at failsToo
    cases failsToo
    exact ⟨rfl, reads⟩

/-! ## Calls in a row -/

/-- The answers of readers called one after the other, and the cursor behind
them. -/
def call (delimiters : Delimiters) (readers : List Reader) :
    Cursor → List (Except Fault Segment) × Cursor :=
  inTurn (readers.map (scan delimiters))

/-- Calls only read on. -/
theorem exists_reads_call (delimiters : Delimiters) (readers : List Reader) (cursor : Cursor) :
    ∃ run, Reads cursor run (call delimiters readers cursor).2 := by
  refine inTurn_preserves (fun reached => ∃ run, Reads cursor run reached) ?_ ⟨[], .refl cursor⟩
  rintro scan member between ⟨front, reads⟩
  obtain ⟨reader, _, rfl⟩ := List.mem_map.mp member
  rcases reader.scan_cases delimiters between with
    ⟨segment, run, reached, gives, onwards, _⟩ | ⟨reached, fails, onwards⟩
  · rw [gives]
    exact ⟨_, reads.trans onwards⟩
  · rw [fails]
    exact ⟨_, reads.trans onwards⟩

end Reader

/-! ## Reading what is left -/

namespace Segment

variable {cursor : Cursor}

theorem readAll_of_ended (delimiters : Delimiters) (ended : cursor.after = []) :
    readAll delimiters cursor = .ok [] cursor := by
  rw [readAll_eq]
  exact map_of_ok (Piece.takes_readAll .nil ended)

/-- Reading what is left is parsing it as a source of its own, except that a
failure tells the length of the whole source. -/
theorem answer_readAll (delimiters : Delimiters) (nonempty : cursor.after ≠ []) :
    answer (readAll delimiters cursor) =
      (parse delimiters cursor.after).mapError fun _ => .endOfInput cursor.length := by
  have comes : cursor.after = cursor.after ++ [] := (List.append_nil cursor.after).symm
  rw [readAll_eq]
  rcases decomposes_or_breaksOff delimiters cursor.after with
    ⟨pieces, decomposes⟩ | ⟨pieces, stump, breaks⟩
  · rw [map_of_ok (Piece.takes_readAll decomposes comes), parse_of_decomposes nonempty decomposes]
    rfl
  · rw [map_of_error (Piece.runsOut_readAll breaks rfl), parse_of_breaksOff breaks]
    rfl

end Segment

/-- Behind any calls of readers, failing or not, the position has not gone back.
A further call that gives a segment takes just the run that tells it, and one
that fails does so because the source ends; it is at the end then, and nothing is
left to read.  Reading all that is left gives what parsing it as a source of its
own gives, where a failure tells the length of the whole source. -/
theorem Reader.calls_read_onwards (delimiters : Delimiters) (source : Text)
    (readers : List Reader) :
    let cursor := (call delimiters readers (start source)).2
    let unread := source.drop cursor.position
    cursor.source = source ∧
    (∀ more, cursor.position ≤ (call delimiters (readers ++ more) (start source)).2.position) ∧
    (∀ (reader : Reader) segment reached, reader.scan delimiters cursor = .ok segment reached →
      ∃ run rest, unread = run ++ rest ∧ Gives delimiters rest reader segment run ∧
        reached.source = source ∧ reached.position = cursor.position + run.length) ∧
    (∀ (reader : Reader) fault reached, reader.scan delimiters cursor = .error fault reached →
      fault = .endOfInput source.length ∧ reached.source = source ∧
        reached.position = source.length ∧
        Segment.readAll delimiters reached = .ok [] reached) ∧
    (unread = [] → Segment.readAll delimiters cursor = .ok [] cursor) ∧
    (unread ≠ [] →
      answer (Segment.readAll delimiters cursor) =
          (Segment.parse delimiters unread).mapError (fun _ => .endOfInput source.length) ∧
        ∀ fault, Segment.parse delimiters unread = .error fault →
          fault = .endOfInput unread.length) := by
  intro cursor unread
  obtain ⟨front, reads⟩ := exists_reads_call delimiters readers (start source)
  have kept : cursor.source = source := reads.source_eq.trans (source_start source)
  have length : cursor.length = source.length := by rw [← length_source, kept]
  have after : cursor.after = unread := by rw [after_eq_drop, kept]
  refine ⟨kept, ?_, ?_, ?_, ?_, ?_⟩
  · intro more
    obtain ⟨run, onwards⟩ := exists_reads_call delimiters more cursor
    rw [call, List.map_append, stateLeft_inTurn_append]
    exact onwards.position_eq ▸ Nat.le_add_right _ _
  · intro reader segment reached gives
    obtain ⟨run, onwards, given⟩ := reads_of_scan_eq_ok gives
    exact ⟨run, reached.after, after.symm.trans onwards.after, given,
      onwards.source_eq.trans kept, onwards.position_eq⟩
  · intro reader fault reached fails
    obtain ⟨told, onwards⟩ := reads_of_scan_eq_error fails
    obtain ⟨ended, position⟩ := onwards.at_end
    rw [length] at told position
    exact ⟨told, onwards.source_eq.trans kept, position,
      Segment.readAll_of_ended delimiters ended⟩
  · intro ended
    exact Segment.readAll_of_ended delimiters (after.trans ended)
  · intro nonempty
    constructor
    · rw [← after, ← length]
      exact Segment.answer_readAll delimiters (after ▸ nonempty)
    · intro fault failed
      exact fault_of_parse_eq_error nonempty failed

/-- A body is read out of literal text, and what is left of it then is a literal
up to an escape with nothing behind it. -/
example : (Reader.call {} [.body, .segment, .segment] (start ['a', '\x60', 'b', '\\'])).1 =
    [.ok (.code ⟨['a'], none⟩), .error (.endOfInput 4), .ok (.literal [])] :=
  rfl

end Inlay
