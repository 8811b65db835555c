import Inlay.Cursor.Scan
import Inlay.Proofs.Sequence

/-!
# What scans take

What the scans below do depends only on the characters still to come.  In
front of a text a scan either takes a run off it and gives a value, or it runs
out: it fails because the source ends, and is then at the end.  `Takes` and
`RunsOut` are these two judgements, and they are closed under sequencing.

A repetition is described by its first step.  It ends where the repeated scan
gives nothing, and since a scan that gives something takes a character, the
bound on the number of repetitions is never felt.
-/

namespace Inlay.Cursor

open Sequence

variable {α β : Type}

/-! ## Passing over a run -/

/-- What is still to come behind a run that was passed. -/
theorem after_pass {cursor : Cursor} {run rest : Text} (comes : cursor.after = run ++ rest) :
    (cursor.pass run rest).after = rest := by
  cases run with
  | nil => simpa using comes
  | cons c run => rfl

theorem length_pass {cursor : Cursor} {run rest : Text} (comes : cursor.after = run ++ rest) :
    (cursor.pass run rest).length = cursor.length := by
  rw [← length_source, source_pass comes, length_source]

/-- Two runs passed in a row are one run. -/
theorem pass_pass (cursor : Cursor) (first second rest : Text) :
    (cursor.pass first (second ++ rest)).pass second rest =
      cursor.pass (first ++ second) rest := by
  cases first with
  | nil => rfl
  | cons c first =>
      cases second with
      | nil => simp
      | cons d second => simp

/-! ## Judgements -/

/-- In front of `run ++ rest` the scan gives the value and takes the run. -/
def Takes (scan : Scan α) (value : α) (run rest : Text) : Prop :=
  ∀ ⦃cursor : Cursor⦄, cursor.after = run ++ rest → scan cursor = .ok value (cursor.pass run rest)

/-- In front of the text the scan reaches the end of the source too early. -/
def RunsOut (scan : Scan α) (text : Text) : Prop :=
  ∀ ⦃cursor : Cursor⦄, cursor.after = text →
    scan cursor = .error (.endOfInput cursor.length) (cursor.pass text [])

section Sequencing

variable {first : Scan α} {next : α → Scan β} {value : α} {result : β} {run later rest : Text}

theorem Takes.pure (value : α) (rest : Text) : Takes (pure value) value [] rest :=
  fun _ _ => rfl

theorem Takes.bind (takes : Takes first value run (later ++ rest))
    (takesLater : Takes (next value) result later rest) :
    Takes (first >>= next) result (run ++ later) rest := by
  intro cursor comes
  rw [List.append_assoc] at comes
  rw [bind_of_ok (takes comes), takesLater (after_pass comes), pass_pass]

theorem Takes.map (change : α → β) (takes : Takes first value run rest) :
    Takes (change <$> first) (change value) run rest :=
  fun _ comes => map_of_ok (takes comes)

theorem Takes.discard (takes : Takes first value run rest) :
    Takes (discard first) () run rest :=
  takes.map _

theorem RunsOut.bind {text : Text} (runsOut : RunsOut first text) :
    RunsOut (first >>= next) text :=
  fun _ comes => bind_of_error (runsOut comes)

theorem RunsOut.map {text : Text} (change : α → β) (runsOut : RunsOut first text) :
    RunsOut (change <$> first) text :=
  fun _ comes => map_of_error (runsOut comes)

theorem RunsOut.discard {text : Text} (runsOut : RunsOut first text) :
    RunsOut (discard first) text :=
  runsOut.map _

/-- A sequence runs out also behind what its first scan takes. -/
theorem Takes.bind_runsOut (takes : Takes first value run rest)
    (runsOut : RunsOut (next value) rest) : RunsOut (first >>= next) (run ++ rest) := by
  intro cursor comes
  have final : (cursor.pass run rest).pass rest [] = cursor.pass (run ++ rest) [] := by
    simpa using pass_pass cursor run rest []
  rw [bind_of_ok (takes comes), runsOut (after_pass comes), length_pass comes, final]

/-- A scan takes one value and one run off a text. -/
theorem Takes.unique {other : α} {otherRun otherRest : Text}
    (takes : Takes first value run rest) (takesOther : Takes first other otherRun otherRest)
    (same : run ++ rest = otherRun ++ otherRest) :
    value = other ∧ run = otherRun ∧ rest = otherRest := by
  have before : (start (run ++ rest)).after = run ++ rest := rfl
  have gives := takes before
  have givesOther := takesOther (before.trans same)
  rw [gives] at givesOther
  obtain ⟨sameValue, samePlace⟩ := EStateM.Result.ok.inj givesOther
  have sameRest : rest = otherRest := by
    rw [← after_pass before, samePlace, after_pass (before.trans same)]
  subst sameRest
  exact ⟨sameValue, List.append_cancel_right same, rfl⟩

end Sequencing

/-! ## Single characters -/

theorem takes_peek (rest : Text) : Takes peek rest.head? [] rest := by
  intro cursor comes
  simp only [List.nil_append] at comes
  simp [peek, comes]

theorem takes_read (c : Char) (rest : Text) : Takes read c [c] rest := by
  intro cursor comes
  simp only [List.cons_append, List.nil_append] at comes
  simp only [read, comes]

theorem runsOut_read : RunsOut read [] := by
  intro cursor ended
  simp only [read, ended, pass_nil]

section Wanted

variable {wanted : List Char} {c : Char} {rest : Text}

theorem takes_acceptAny (member : c ∈ wanted) (rest : Text) :
    Takes (acceptAny wanted) (some c) [c] rest := by
  intro cursor comes
  simp only [List.cons_append, List.nil_append] at comes
  simp [acceptAny, comes, member]

theorem takes_acceptAny_none (others : ∀ c ∈ rest.head?, c ∉ wanted) :
    Takes (acceptAny wanted) none [] rest := by
  intro cursor comes
  cases rest with
  | nil => simp [acceptAny, comes]
  | cons c rest => simp [acceptAny, comes, others c rfl]

theorem takes_expectAny (member : c ∈ wanted) (rest : Text) :
    Takes (expectAny wanted) c [c] rest := by
  have accepted : Takes (acceptAny wanted) (some c) [c] ([] ++ rest) :=
    takes_acceptAny member rest
  exact accepted.bind (Takes.pure c rest)

theorem runsOut_expectAny (wanted : List Char) : RunsOut (expectAny wanted) [] := by
  have nothing : Takes (acceptAny wanted) none [] [] := takes_acceptAny_none (by simp)
  apply nothing.bind_runsOut
  intro cursor ended
  simp only [refuse, ended, pass_nil]

end Wanted

theorem takes_accept (wanted : Char) (rest : Text) :
    Takes (accept wanted) (some wanted) [wanted] rest :=
  takes_acceptAny List.mem_cons_self rest

theorem takes_accept_none {wanted : Char} {rest : Text} (other : rest.head? ≠ some wanted) :
    Takes (accept wanted) none [] rest := by
  apply takes_acceptAny_none
  rintro c comes member
  obtain rfl := List.mem_singleton.mp member
  exact other comes

theorem takes_expect (wanted : Char) (rest : Text) :
    Takes (expect wanted) wanted [wanted] rest :=
  takes_expectAny List.mem_cons_self rest

theorem runsOut_expect (wanted : Char) : RunsOut (expect wanted) [] :=
  runsOut_expectAny [wanted]

/-! ## Runs -/

/-- Reading up to a character takes the run in front of its first occurrence,
or everything if there is none. -/
theorem takes_readUntilAny {stop : Char} {run rest : Text} (absent : stop ∉ run)
    (stops : rest = [] ∨ rest.head? = some stop) :
    Takes (readUntilAny [stop]) run run rest := by
  intro cursor comes
  have goesOn : ∀ c ∈ run, decide (c ∉ [stop]) = true := by
    intro c member
    have different : c ≠ stop := fun same => absent (same ▸ member)
    simpa using different
  have taken : cursor.after.takeWhile (fun c => decide (c ∉ [stop])) = run := by
    rw [comes, List.takeWhile_append_of_pos goesOn]
    cases rest with
    | nil => simp
    | cons c rest => simp_all
  have left : cursor.after.dropWhile (fun c => decide (c ∉ [stop])) = rest := by
    rw [comes, List.dropWhile_append_of_pos goesOn]
    cases rest with
    | nil => rfl
    | cons c rest => simp_all
  simp only [readUntilAny, readWhileChar, taken, left]

/-- Read up to a character, and the character. -/
def readThrough (stop : Char) : Scan Text := do
  let run ← readUntilAny [stop]
  discard (expect stop)
  pure run

theorem takes_readThrough {stop : Char} {run : Text} (absent : stop ∉ run) (rest : Text) :
    Takes (readThrough stop) run (run ++ [stop]) rest := by
  have upTo : Takes (readUntilAny [stop]) run run ([stop] ++ rest) :=
    takes_readUntilAny absent (.inr rfl)
  have closing : Takes (discard (expect stop)) () [stop] ([] ++ rest) :=
    (takes_expect stop rest).discard
  exact upTo.bind (closing.bind (Takes.pure run rest))

theorem runsOut_readThrough {stop : Char} {text : Text} (absent : stop ∉ text) :
    RunsOut (readThrough stop) text := by
  have all : Takes (readUntilAny [stop]) text text [] := takes_readUntilAny absent (.inl rfl)
  have failing : RunsOut (readThrough stop) (text ++ []) :=
    all.bind_runsOut (runsOut_expect stop).discard.bind
  rwa [List.append_nil] at failing

/-! ## Repetition -/

/-- A scan that gives nothing at the end, and takes a character whenever it
gives something. -/
structure Progressive (scan : Scan (Option α)) : Prop where
  ends : ∀ ⦃cursor⦄, cursor.after = [] → scan cursor = .ok none cursor
  takes : ∀ ⦃cursor value next⦄, scan cursor = .ok (some value) next →
    next.after.length < cursor.after.length

theorem Progressive.map {scan : Scan (Option α)} (progressive : Progressive scan)
    (change : α → β) : Progressive (Option.map change <$> scan) where
  ends := fun _ ended => map_of_ok (progressive.ends ended)
  takes := by
    intro cursor _ next gives
    obtain ⟨found, gives, changed⟩ := map_eq_ok_iff.mp gives
    obtain ⟨_, rfl, _⟩ := Option.map_eq_some_iff.mp changed
    exact progressive.takes gives

/-- Any two bounds that are no less than the characters left give the same
repetition. -/
theorem Progressive.manyWithin_eq {scan : Scan (Option α)} (progressive : Progressive scan)
    {limit other : Text} {cursor : Cursor} (enough : cursor.after.length ≤ limit.length)
    (enoughToo : cursor.after.length ≤ other.length) :
    manyWithin scan limit cursor = manyWithin scan other cursor := by
  induction limit generalizing other cursor with
  | nil =>
      have ended : cursor.after = [] := List.length_eq_zero_iff.mp (Nat.le_zero.1 enough)
      cases other with
      | nil => rfl
      | cons _ other =>
          simp only [manyWithin]
          rw [bind_of_ok (progressive.ends ended)]
  | cons _ limit ih =>
      cases other with
      | nil =>
          have ended : cursor.after = [] := List.length_eq_zero_iff.mp (Nat.le_zero.1 enoughToo)
          simp only [manyWithin]
          rw [bind_of_ok (progressive.ends ended)]
      | cons _ other =>
          simp only [manyWithin]
          cases step : scan cursor with
          | error fault reached => rw [bind_of_error step, bind_of_error step]
          | ok result reached =>
              rw [bind_of_ok step, bind_of_ok step]
              cases result with
              | none => rfl
              | some value =>
                  have shorter := progressive.takes step
                  simp only [List.length_cons] at enough enoughToo
                  have same : manyWithin scan limit reached = manyWithin scan other reached :=
                    ih (by omega) (by omega)
                  simp only [bind, EStateM.bind, same]

/-- Go on with a repetition after a step that gave something, or end it. -/
def manyAfter (scan : Scan (Option α)) : Option α → Scan (List α)
  | none => pure []
  | some value => (value :: ·) <$> many scan

/-- A repetition does a first step, and goes on if the step gives a value. -/
theorem Progressive.many_eq {scan : Scan (Option α)} (progressive : Progressive scan) :
    many scan = scan >>= manyAfter scan := by
  funext cursor
  cases left : cursor.after with
  | nil =>
      rw [bind_of_ok (progressive.ends left)]
      simp only [many, left, manyWithin, manyAfter]
  | cons c rest =>
      simp only [many, left, manyWithin]
      cases step : scan cursor with
      | error fault reached => rw [bind_of_error step, bind_of_error step]
      | ok result reached =>
          rw [bind_of_ok step, bind_of_ok step]
          cases result with
          | none => rfl
          | some value =>
              have shorter := progressive.takes step
              have same : manyWithin scan rest reached = many scan reached :=
                progressive.manyWithin_eq
                  (by simp only [left, List.length_cons] at shorter; omega) (Nat.le_refl _)
              simp only [bind, EStateM.bind, manyAfter, Functor.map, EStateM.map, same]
              rfl

theorem manyWithin_map (change : α → β) (scan : Scan (Option α)) (limit : Text) :
    manyWithin (Option.map change <$> scan) limit = List.map change <$> manyWithin scan limit := by
  induction limit with
  | nil => rfl
  | cons _ limit ih =>
      simp only [manyWithin, bind_map_left, map_bind, ih]
      congr
      funext found
      cases found with
      | none => rfl
      | some value => simp

/-- Changing what the repeated scan gives changes what the repetition gives. -/
theorem many_map (change : α → β) (scan : Scan (Option α)) :
    many (Option.map change <$> scan) = List.map change <$> many scan := by
  funext cursor
  rw [many, manyWithin_map]
  rfl

end Inlay.Cursor
