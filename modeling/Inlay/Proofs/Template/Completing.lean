import Inlay.Proofs.Template.Grammar

/-!
# Completing texts that break off

A text that cannot be parsed is only cut short.  It breaks off in a stump, and
one more character makes a piece of that: the one that closes the code or the
name, or any character at all behind an escape.  The pieces in front of the stump
still fit, since what follows them begins as before.

Reading one segment after the other gives the segments of these pieces and then
fails.  So whatever was read before the failure is also read from the completed
text, and there is one more segment behind it.
-/

namespace Inlay

open Cursor Template

variable {delimiters : Delimiters} {text : Text} {pieces : List Piece} {stump : Stump} {c : Char}

/-! ## Reading up to the failure -/

/-- Reading one segment after the other gives the segments, and then fails with
the fault. -/
inductive Segment.FailsBehind (delimiters : Delimiters) : List Segment → Cursor → Fault → Prop
  | here {cursor left : Cursor} {fault : Fault}
      (fails : readNext delimiters cursor = .error fault left) :
      FailsBehind delimiters [] cursor fault
  | later {cursor next : Cursor} {segment : Segment} {segments : List Segment} {fault : Fault}
      (reads : readNext delimiters cursor = .ok segment next)
      (more : FailsBehind delimiters segments next fault) :
      FailsBehind delimiters (segment :: segments) cursor fault

/-- There is one failure that reading leads to. -/
theorem Segment.FailsBehind.unique {segments others : List Segment} {cursor : Cursor}
    {fault other : Fault} (failure : FailsBehind delimiters segments cursor fault)
    (failureToo : FailsBehind delimiters others cursor other) : segments = others := by
  induction failure generalizing others with
  | here fails =>
      cases failureToo with
      | here => rfl
      | later reads =>
          rw [fails] at reads
          contradiction
  | later reads more ih =>
      cases failureToo with
      | here fails =>
          rw [reads] at fails
          contradiction
      | later readsToo moreToo =>
          rw [reads] at readsToo
          obtain ⟨rfl, rfl⟩ := EStateM.Result.ok.inj readsToo
          rw [ih moreToo]

namespace Template

/-- Where a text breaks off, reading fails because the source ends. -/
theorem BreaksOff.failsBehind (breaks : BreaksOff delimiters text pieces stump) {cursor : Cursor}
    (comes : cursor.after = text) :
    Segment.FailsBehind delimiters (pieces.map Piece.segment) cursor
      (.endOfInput cursor.length) := by
  induction breaks generalizing cursor with
  | stump waits => exact .here (Segment.runsOut_readNext waits comes)
  | cons fits more ih =>
      have behind := ih (after_pass comes)
      rw [length_pass comes] at behind
      exact .later (Segment.takes_readNext fits comes) behind

/-! ## Closing the stump -/

namespace Stump

/-- The character is what the stump waits for; behind an escape that is any. -/
def Closes (delimiters : Delimiters) (c : Char) : Stump → Prop
  | code _ => c = delimiters.codeClose
  | name _ _ => c = delimiters.nameClose
  | escape _ => True

/-- The piece that the stump becomes with the character. -/
def close (c : Char) : Stump → Piece
  | code text => .code ⟨text, none⟩
  | name inside text => .code ⟨inside, some text⟩
  | escape units => .literal (units ++ [.escaped c])

theorem fits_close (waits : stump.Open delimiters) (c : Char) :
    (stump.close c).Fits delimiters [] := by
  cases stump with
  | code text => exact ⟨⟨waits, by simp⟩, by simp [Fragment.EndsBefore]⟩
  | name inside text =>
      exact ⟨⟨waits.1, by simpa using waits.2⟩, by simp [Fragment.EndsBefore]⟩
  | escape units =>
      have last : (LiteralUnit.escaped c).Valid delimiters := waits.1
      have valid : ∀ unit ∈ units ++ [.escaped c], unit.Valid delimiters :=
        List.forall_mem_append.mpr ⟨waits.2, by simpa using last⟩
      exact ⟨by simp, valid, .inl rfl⟩

theorem written_close (closes : stump.Closes delimiters c) :
    (stump.close c).written delimiters = stump.written delimiters ++ [c] := by
  cases stump with
  | code text =>
      obtain rfl : c = delimiters.codeClose := closes
      rfl
  | name inside text =>
      obtain rfl : c = delimiters.nameClose := closes
      simp [close, Piece.written, Fragment.written, Fragment.writtenName, written]
  | escape units => simp [close, Piece.written, written, LiteralUnit.written]

end Stump

namespace BreaksOff

theorem eq_append (breaks : BreaksOff delimiters text pieces stump) :
    text = pieces.flatMap (Piece.written delimiters) ++ stump.written delimiters := by
  induction breaks with
  | stump => rfl
  | cons _ _ ih => rw [List.flatMap_cons, List.append_assoc, ← ih]

/-- With the character that the stump waits for, the text is a row of pieces. -/
theorem decomposes (breaks : BreaksOff delimiters text pieces stump)
    (closes : stump.Closes delimiters c) :
    Decomposes delimiters (text ++ [c]) (pieces ++ [stump.close c]) := by
  induction breaks with
  | stump waits =>
      rw [← Stump.written_close closes, ← List.append_nil (Piece.written _ _)]
      exact Decomposes.nil.cons (Stump.fits_close waits c)
  | cons fits more ih =>
      rw [List.append_assoc]
      exact (ih closes).cons (fits.append more.ne_nil [c])

/-- With the character that the stump waits for, the text is parsed. -/
theorem parse_close (breaks : BreaksOff delimiters text pieces stump)
    (closes : stump.Closes delimiters c) :
    Segment.parse delimiters (text ++ [c]) =
      .ok (pieces.map Piece.segment ++ [(stump.close c).segment]) := by
  have parsed := parse_of_decomposes (by simp) (breaks.decomposes closes)
  simpa using parsed

end BreaksOff

/-! ## One more character -/

/-- Where a text that is not empty cannot be parsed, reading one segment after
the other fails behind some segments, and one more character completes the text:
the one that closes code, the one that closes a name, or any character behind an
escape at the end.  The completed text is parsed into the segments before the
failure and one more, which is the fragment or the literal that was cut short. -/
theorem parse_completed (delimiters : Delimiters) (source : Text) (fault : Fault)
    (nonempty : source ≠ []) (failed : Segment.parse delimiters source = .error fault) :
    (∃ segments, Segment.FailsBehind delimiters segments (start source) fault) ∧
    ∀ segments other, Segment.FailsBehind delimiters segments (start source) other →
      (∃ code, Segment.parse delimiters (source ++ [delimiters.codeClose]) =
        .ok (segments ++ [.code ⟨code, none⟩])) ∨
      (∃ code name, Segment.parse delimiters (source ++ [delimiters.nameClose]) =
        .ok (segments ++ [.code ⟨code, some name⟩])) ∨
      (source.getLast? = some delimiters.escape ∧
        ∃ text, ∀ c, Segment.parse delimiters (source ++ [c]) =
          .ok (segments ++ [.literal (text ++ [c])])) := by
  obtain ⟨pieces, stump, breaks⟩ := breaksOff_of_parse_eq_error nonempty failed
  have failure : Segment.FailsBehind delimiters (pieces.map Piece.segment) (start source)
      (.endOfInput source.length) := by
    have length : (start source).length = source.length := by rw [← length_source, source_start]
    rw [← length]
    exact breaks.failsBehind rfl
  constructor
  · rw [parse_of_breaksOff breaks] at failed
    obtain rfl := Except.error.inj failed
    exact ⟨_, failure⟩
  · intro segments other failureToo
    obtain rfl := failure.unique failureToo
    cases stump with
    | code text => exact .inl ⟨text, breaks.parse_close rfl⟩
    | name inside text => exact .inr (.inl ⟨inside, text, breaks.parse_close rfl⟩)
    | escape units =>
        refine .inr (.inr ⟨?_, units.map LiteralUnit.meant, ?_⟩)
        · rw [breaks.eq_append]
          simp [Stump.written]
        · intro c
          have parsed := breaks.parse_close (c := c) trivial
          simpa [Stump.close, Piece.segment, LiteralUnit.meant] using parsed

/-- A name that is not closed, behind a literal that was read before. -/
theorem parse_completed_name :
    (['a', '\x60', 'b', '\x60', '(', 'c'] ≠ ([] : Text) ∧
        Segment.parse {} ['a', '\x60', 'b', '\x60', '(', 'c'] = .error (.endOfInput 6) ∧
        Segment.FailsBehind {} [.literal ['a']] (start ['a', '\x60', 'b', '\x60', '(', 'c'])
          (.endOfInput 6)) ∧
      ∃ c last, Segment.parse {} (['a', '\x60', 'b', '\x60', '(', 'c'] ++ [c]) =
        .ok ([.literal ['a']] ++ [last]) := by
  have nonempty : ['a', '\x60', 'b', '\x60', '(', 'c'] ≠ ([] : Text) := by simp
  have failed : Segment.parse {} ['a', '\x60', 'b', '\x60', '(', 'c'] =
      .error (.endOfInput 6) := by rfl
  have failure : Segment.FailsBehind {} [.literal ['a']]
      (start ['a', '\x60', 'b', '\x60', '(', 'c']) (.endOfInput 6) :=
    .later rfl (.here rfl)
  refine ⟨⟨nonempty, failed, failure⟩, ?_⟩
  rcases (parse_completed {} _ _ nonempty failed).2 _ _ failure with
    ⟨code, parsed⟩ | ⟨code, name, parsed⟩ | ⟨_, text, parsed⟩
  · exact ⟨_, _, parsed⟩
  · exact ⟨_, _, parsed⟩
  · exact ⟨_, _, parsed 'x'⟩

end Template

end Inlay
