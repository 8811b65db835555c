import Inlay.Proofs.Cursor.Reading

/-!
# Longest runs

Reading while characters are accepted takes a run in which every character is
accepted behind the ones before it, and stops at the end or in front of a character
that is not accepted behind all of the run.  What is accepted may depend on
everything that was taken.  These two conditions determine the run, and no longer
text that comes next has only accepted characters.

For a class of characters the condition does not look at the run.  Reading up to the
next of some characters then ends in front of one of them, unless it reaches the end.
-/

namespace Inlay.Cursor

variable {accepts : Text → Char → Bool} {run rest : Text}

/-! ## Accepted texts -/

/-- Each character of the text is accepted behind the ones before it. -/
def Accepted (accepts : Text → Char → Bool) (text : Text) : Prop :=
  ∀ (i : Nat) (inside : i < text.length), accepts (text.take i) text[i] = true

theorem accepted_nil (accepts : Text → Char → Bool) : Accepted accepts [] := by
  intro i inside
  contradiction

theorem accepted_cons_iff {c : Char} {text : Text} :
    Accepted accepts (c :: text) ↔
      accepts [] c = true ∧ Accepted (fun seen => accepts (c :: seen)) text := by
  constructor
  · intro accepted
    refine ⟨accepted 0 (Nat.succ_pos _), ?_⟩
    intro i inside
    exact accepted (i + 1) (Nat.succ_lt_succ inside)
  · rintro ⟨first, later⟩ i inside
    cases i with
    | zero => exact first
    | succ i => exact later i (Nat.lt_of_succ_lt_succ inside)

/-! ## The longest one -/

/-- In front of the rest, the run is accepted, and the character behind it is
not. -/
structure LongestRun (accepts : Text → Char → Bool) (run rest : Text) : Prop where
  accepted : Accepted accepts run
  stops : ∀ c ∈ rest.head?, accepts run c = false

theorem longestRun_nil_iff :
    LongestRun accepts [] rest ↔ ∀ c ∈ rest.head?, accepts [] c = false := by
  constructor
  · exact LongestRun.stops
  · exact fun stops => ⟨accepted_nil accepts, stops⟩

theorem longestRun_cons_iff {c : Char} :
    LongestRun accepts (c :: run) rest ↔
      accepts [] c = true ∧ LongestRun (fun seen => accepts (c :: seen)) run rest := by
  constructor
  · rintro ⟨accepted, stops⟩
    rw [accepted_cons_iff] at accepted
    exact ⟨accepted.1, accepted.2, stops⟩
  · rintro ⟨first, accepted, stops⟩
    exact ⟨accepted_cons_iff.mpr ⟨first, accepted⟩, stops⟩

/-- An accepted text that comes next is no longer than the run. -/
theorem LongestRun.prefix_of_accepted (longest : LongestRun accepts run rest) {text : Text}
    (comes : text <+: run ++ rest) (accepted : Accepted accepts text) : text <+: run := by
  induction run generalizing accepts text with
  | nil =>
      cases text with
      | nil => exact List.prefix_refl []
      | cons c text =>
          obtain ⟨behind, rfl⟩ := comes
          have refused := longest.stops c rfl
          rw [(accepted_cons_iff.mp accepted).1] at refused
          contradiction
  | cons d run ih =>
      cases text with
      | nil => exact List.nil_prefix
      | cons c text =>
          rw [List.cons_append, List.cons_prefix_cons] at comes
          obtain ⟨rfl, comes⟩ := comes
          rw [List.cons_prefix_cons]
          exact ⟨rfl, ih (longestRun_cons_iff.mp longest).2 comes (accepted_cons_iff.mp accepted).2⟩

/-! ## Reading it -/

/-- Splitting behind a text that was seen finds the longest run. -/
theorem longestRun_splitRun (accepts : Text → Char → Bool) (seen text : Text) :
    LongestRun (fun more => accepts (seen ++ more)) (splitRun accepts seen text).1
      (splitRun accepts seen text).2 := by
  induction text generalizing seen with
  | nil => simp [splitRun, longestRun_nil_iff]
  | cons c text ih =>
      by_cases accepted : accepts seen c
      · have later := ih (seen ++ [c])
        simp only [splitRun, accepted, if_true, longestRun_cons_iff, List.append_nil, true_and]
        simpa using later
      · simp [splitRun, accepted, longestRun_nil_iff]

/-- Reading takes the longest run of what comes next. -/
theorem exists_longestRun (accepts : Text → Char → Bool) (cursor : Cursor) :
    ∃ run rest, cursor.after = run ++ rest ∧ LongestRun accepts run rest ∧
      readWhile accepts cursor = .ok run (cursor.pass run rest) :=
  ⟨_, _, (splitRun_append accepts [] cursor.after).symm,
    longestRun_splitRun accepts [] cursor.after, rfl⟩

/-- Behind the longest run there is the end, or a character that is not accepted. -/
theorem LongestRun.ends {cursor : Cursor} (longest : LongestRun accepts run cursor.after) :
    cursor.position = cursor.length ∨
      ∃ c, cursor.source[cursor.position]? = some c ∧ accepts run c = false := by
  cases left : cursor.after with
  | nil => exact .inl (by simp [position, Cursor.length, left])
  | cons c rest =>
      have found : cursor.after.head? = some c := by rw [left, List.head?_cons]
      exact .inr ⟨c, by rw [getElem?_source_position, found], longest.stops c found⟩

/-! ## Up to the next of some characters -/

theorem readUntilAny_eq (stops : List Char) : readUntilAny stops = readWhile fun _ c => c ∉ stops :=
  readWhileChar_eq_readWhile _

/-- Behind a run up to the next of some characters one of them comes next, or the
source ends. -/
theorem expectAny_behind_readUntilAny {stops : List Char} {cursor reached : Cursor}
    (reads : readUntilAny stops cursor = .ok run reached) :
    (∃ c rest, c ∈ stops ∧ expectAny stops reached = .ok c (reached.pass [c] rest)) ∨
      reached.position = cursor.length ∧
        expectAny stops reached = .error (.endOfInput cursor.length) reached := by
  obtain ⟨taken, rest, comes, longest, gives⟩ := exists_longestRun (fun _ c => c ∉ stops) cursor
  rw [readUntilAny_eq, gives] at reads
  obtain ⟨rfl, rfl⟩ := EStateM.Result.ok.inj reads
  have behind := after_pass comes
  cases rest with
  | nil =>
      have position := (Reads.pass comes).position_eq
      have fails := runsOut_expectAny stops behind
      rw [length_pass comes, pass_nil] at fails
      refine .inr ⟨?_, fails⟩
      rw [position, Cursor.length, comes, List.append_nil]
      rfl
  | cons c rest =>
      have member : c ∈ stops := by simpa using longest.stops c rfl
      exact .inl ⟨c, rest, member, takes_expectAny member rest behind⟩

/-! ## Reading while -/

/-- Wherever a cursor is, reading while characters are accepted succeeds.  The text
is the part of the source between the positions; each of its characters is accepted
behind the ones before it; and it ends at the end of the source or in front of a
character that is not accepted behind all of it.  No accepted text that comes next
is longer.

The other ways to read on are this one with a class of characters.  Behind a run up
to the next of some characters, expecting one of them takes it, or fails because the
source ends there. -/
theorem readWhile_takes_longest_run (cursor : Cursor) (accepts : Text → Char → Bool)
    (stops : List Char) :
    (∃ run reached, readWhile accepts cursor = .ok run reached ∧
      reached.source = cursor.source ∧
      reached.position = cursor.position + run.length ∧
      run = (cursor.source.take reached.position).drop cursor.position ∧
      (∀ (i : Nat) (inside : i < run.length), accepts (run.take i) run[i] = true) ∧
      (reached.position = cursor.source.length ∨
        ∃ c, cursor.source[reached.position]? = some c ∧ accepts run c = false) ∧
      ∀ text, text <+: cursor.source.drop cursor.position →
        (∀ (i : Nat) (inside : i < text.length), accepts (text.take i) text[i] = true) →
          text <+: run) ∧
    (skipBlanks = readWhile fun _ c => Text.blank c) ∧
    (readUntilBlank = readWhile fun _ c => !Text.blank c) ∧
    (readUntilAny stops = readWhile fun _ c => c ∉ stops) ∧
    (readUntilBlankOrAny stops = readWhile fun _ c => !(Text.blank c || c ∈ stops)) ∧
    ∀ run reached, readUntilAny stops cursor = .ok run reached →
      (∃ c rest, c ∈ stops ∧ expectAny stops reached = .ok c (reached.pass [c] rest)) ∨
        reached.position = cursor.source.length ∧
          expectAny stops reached = .error (.endOfInput cursor.source.length) reached := by
  refine ⟨?_, readWhileChar_eq_readWhile _, readWhileChar_eq_readWhile _, readUntilAny_eq stops,
    readWhileChar_eq_readWhile _, ?_⟩
  · obtain ⟨run, rest, comes, longest, gives⟩ := exists_longestRun accepts cursor
    have reads := Reads.pass comes
    rw [← after_pass comes] at longest
    refine ⟨run, cursor.pass run rest, gives, reads.source_eq, reads.position_eq, reads.run_eq,
      longest.accepted, ?_, ?_⟩
    · rw [← reads.source_eq, length_source]
      exact longest.ends
    · intro text leads accepted
      rw [← after_eq_drop, reads.after] at leads
      exact longest.prefix_of_accepted leads accepted
  · intro run reached reads
    rw [length_source]
    exact expectAny_behind_readUntilAny reads

/-- A run without repetitions ends where a character comes again. -/
example : readWhile (fun seen c => c ∉ seen) (start ['a', 'b', 'a', 'c']) =
    .ok ['a', 'b'] ⟨['b', 'a'], ['a', 'c'], none⟩ :=
  rfl

end Inlay.Cursor
