import Inlay.Proofs.Template.Stepping

/-!
# Reading in a loop comes to an end

All segments of a template are read in a loop: as long as the end is not reached,
one more segment is read.  Nothing in the loop itself keeps it from going on for
ever.  It ends because the reader of one segment takes a character whenever there
is one: literal text stops without taking anything only where code is opened, and
there a fragment is read instead.  Both ask for the same character, whatever the
delimiters are, so that nothing depends on whether some of them coincide.

For the same reason a literal is followed by a fragment or by the end.
-/

namespace Inlay

open Cursor Sequence

variable {delimiters : Delimiters} {segment : Segment} {run rest : Text}
  {cursor reached next left : Cursor} {fault : Fault}

/-! ## One segment -/

namespace Reader.Gives

/-- Something is taken for a segment, unless the end is reached. -/
theorem run_ne_nil (gives : Gives delimiters rest .segment segment run)
    (unread : run ++ rest ≠ []) : run ≠ [] := by
  cases gives with
  | opened gives => exact List.cons_ne_nil _ _
  | unopened noCode gives =>
      cases gives with
      | literal valid stops =>
          intro nothing
          rw [nothing, List.nil_append] at noCode unread
          rcases stops with ended | opens
          · exact unread ended
          · exact noCode opens

/-- A literal does not begin where code is opened, and stops where code is opened or
at the end. -/
theorem literal_inv {text : Text} (gives : Gives delimiters rest .segment (.literal text) run) :
    (run ++ rest).head? ≠ some delimiters.codeOpen ∧ LiteralUnit.Stops delimiters rest := by
  cases gives with
  | opened gives => cases gives
  | unopened noCode gives =>
      cases gives with
      | literal valid stops => exact ⟨noCode, stops⟩

end Reader.Gives

namespace Segment

theorem reads_of_readNext_eq_ok (gives : readNext delimiters cursor = .ok segment reached) :
    ∃ run, Reads cursor run reached ∧
      Reader.Gives delimiters reached.after .segment segment run := by
  have called : Reader.segment.scan delimiters cursor = .ok segment reached := gives
  exact Reader.reads_of_scan_eq_ok called

theorem readNext_advances (unread : cursor.after ≠ [])
    (gives : readNext delimiters cursor = .ok segment reached) :
    cursor.position < reached.position ∧ reached.after.length < cursor.after.length := by
  obtain ⟨run, reads, given⟩ := reads_of_readNext_eq_ok gives
  have positive : 0 < run.length :=
    List.length_pos_iff.mpr (given.run_ne_nil (reads.after ▸ unread))
  rw [reads.position_eq, reads.after, List.length_append]
  omega

/-- Of two segments that are read one after the other both are literals only if the
second is read at the end. -/
theorem ended_of_literals {first second : Text} {middle last : Cursor}
    (gives : readNext delimiters cursor = .ok (.literal first) middle)
    (givesToo : readNext delimiters middle = .ok (.literal second) last) : middle.after = [] := by
  obtain ⟨run, reads, given⟩ := reads_of_readNext_eq_ok gives
  obtain ⟨runToo, readsToo, givenToo⟩ := reads_of_readNext_eq_ok givesToo
  apply given.literal_inv.2.resolve_right
  rw [readsToo.after]
  exact givenToo.literal_inv.1

/-! ## All segments -/

theorem readNext?_of_unread (unread : cursor.after ≠ []) :
    readNext? delimiters cursor = (some <$> readNext delimiters) cursor := by
  obtain ⟨c, rest, comes⟩ := List.exists_cons_of_ne_nil unread
  have seen : peek cursor = .ok (some c) cursor := by rw [peek, comes, List.head?_cons]
  exact bind_of_ok seen

theorem readAll_of_error (unread : cursor.after ≠ [])
    (fails : readNext delimiters cursor = .error fault left) :
    readAll delimiters cursor = .error fault left := by
  have step := (readNext?_of_unread unread).trans (map_of_error fails)
  rw [readAll, (progressive_readNext? delimiters).many_eq]
  exact bind_of_error step

theorem readAll_of_ok (unread : cursor.after ≠ [])
    (gives : readNext delimiters cursor = .ok segment next) :
    readAll delimiters cursor = ((segment :: ·) <$> readAll delimiters) next := by
  have step := (readNext?_of_unread unread).trans (map_of_ok gives)
  have repeated := congrFun (progressive_readNext? delimiters).many_eq cursor
  exact repeated.trans (bind_of_ok step)

/-! ## The loop -/

/-- As long as the end is not reached, one more segment is read.  From the cursor,
the loop makes so many calls, and then it ends with all segments or with the fault
of the last call. -/
inductive Loop (delimiters : Delimiters) : Cursor → Nat → Except Fault (List Segment) → Prop
  | ended {cursor : Cursor} (ended : cursor.after = []) : Loop delimiters cursor 0 (.ok [])
  | failed {cursor left : Cursor} {fault : Fault} (unread : cursor.after ≠ [])
      (fails : readNext delimiters cursor = .error fault left) :
      Loop delimiters cursor 1 (.error fault)
  | read {cursor next : Cursor} {segment : Segment} {calls : Nat}
      {outcome : Except Fault (List Segment)} (unread : cursor.after ≠ [])
      (gives : readNext delimiters cursor = .ok segment next)
      (later : Loop delimiters next calls outcome) :
      Loop delimiters cursor (calls + 1) (outcome.map (segment :: ·))

variable {calls : Nat} {outcome : Except Fault (List Segment)}

/-- The loop is never endless. -/
theorem exists_loop (delimiters : Delimiters) (cursor : Cursor) :
    ∃ calls outcome, Loop delimiters cursor calls outcome := by
  induction size : cursor.after.length using Nat.strongRecOn generalizing cursor with
  | _ size ih =>
      subst size
      by_cases ended : cursor.after = []
      · exact ⟨0, _, .ended ended⟩
      · cases step : readNext delimiters cursor with
        | error fault left => exact ⟨1, _, .failed ended step⟩
        | ok segment next =>
            obtain ⟨calls, outcome, later⟩ := ih _ (readNext_advances ended step).2 next rfl
            exact ⟨calls + 1, _, .read ended step later⟩

namespace Loop

/-- Every call takes a character or is the last one. -/
theorem calls_le (loop : Loop delimiters cursor calls outcome) :
    calls ≤ cursor.after.length := by
  induction loop with
  | ended => exact Nat.zero_le _
  | failed unread => exact List.length_pos_iff.mpr unread
  | read unread gives later ih =>
      have shorter := (readNext_advances unread gives).2
      omega

/-- The loop reads all segments. -/
theorem outcome_eq (loop : Loop delimiters cursor calls outcome) :
    outcome = answer (readAll delimiters cursor) := by
  induction loop with
  | ended ended => rw [readAll_of_ended delimiters ended, answer]
  | failed unread fails => rw [readAll_of_error unread fails, answer]
  | @read cursor next segment _ _ unread gives later ih =>
      rw [ih, readAll_of_ok unread gives]
      cases ran : readAll delimiters next with
      | ok segments last => rw [map_of_ok ran]; rfl
      | error fault left => rw [map_of_error ran]; rfl

/-- Every call of a loop that succeeds reads one segment. -/
theorem length_eq (loop : Loop delimiters cursor calls outcome) :
    ∀ segments, outcome = .ok segments → segments.length = calls := by
  induction loop with
  | ended =>
      rintro _ ⟨⟩
      rfl
  | failed => simp
  | @read _ _ _ _ outcome unread gives later ih =>
      cases outcome with
      | error fault => simp [Except.map]
      | ok others =>
          rintro _ ⟨⟩
          rw [List.length_cons, ih others rfl]

end Loop

/-- Whatever the delimiters and wherever a cursor is: reading a segment in front of
the end goes on by at least one character.  So reading all segments in a loop ends
behind no more calls than there are characters left, and gives no more segments than
that.  Of two calls in a row that succeed both give literals only if the second one
is made at the end. -/
theorem reading_goes_on (delimiters : Delimiters) (cursor : Cursor) :
    (∀ segment reached, cursor.atEnd = false →
      readNext delimiters cursor = .ok segment reached → cursor.position < reached.position) ∧
    (∃ calls ≤ cursor.after.length,
      Loop delimiters cursor calls (answer (readAll delimiters cursor))) ∧
    (∀ calls outcome, Loop delimiters cursor calls outcome →
      calls ≤ cursor.after.length ∧ outcome = answer (readAll delimiters cursor)) ∧
    (∀ segments reached, readAll delimiters cursor = .ok segments reached →
      segments.length ≤ cursor.after.length) ∧
    ∀ first second middle last, readNext delimiters cursor = .ok (.literal first) middle →
      readNext delimiters middle = .ok (.literal second) last → middle.atEnd = true := by
  obtain ⟨calls, outcome, loop⟩ := exists_loop delimiters cursor
  refine ⟨?_, ⟨calls, loop.calls_le, loop.outcome_eq ▸ loop⟩, ?_, ?_, ?_⟩
  · intro segment reached unread gives
    have some : cursor.after ≠ [] := by simpa [atEnd] using unread
    exact (readNext_advances some gives).1
  · intro others other loopToo
    exact ⟨loopToo.calls_le, loopToo.outcome_eq⟩
  · intro segments reached gives
    have answered : outcome = .ok segments := by rw [loop.outcome_eq, gives, answer]
    exact loop.length_eq segments answered ▸ loop.calls_le
  · intro first second middle last gives givesToo
    rw [atEnd, ended_of_literals gives givesToo, List.isEmpty_nil]

/-- One character may have all the roles. -/
example : parse ⟨'|', '|', '|', '|', '|'⟩ ['x', '|', '|', '|', 'n', '|', 'y'] =
    .ok [.literal ['x'], .code ⟨[], some ['n']⟩, .literal ['y']] :=
  rfl

end Segment

end Inlay
