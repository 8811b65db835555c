import Inlay.Proofs.Build.Holding

/-!
# Names that are written once

A session may be used again and again: templates are built in the scope of the
evaluator, segments are resolved and fragments evaluated, and any of this may
fail.  As long as nobody else publishes or forgets texts, the session keeps all
that it ever held.  So the first fragment of a name that a build gets past
settles the text of this name for good: no later build executes a fragment of
that name again, and all of them show this text.

The course of the uses is told by events, one for each segment of a build and
one for each other use, with the sessions before and after it.
-/

namespace Inlay

open Sequence

variable {κ : Type}

/-! ## Uses and events -/

/-- What is done with a session apart from publishing and forgetting. -/
inductive Use where
  /-- Build segments in the scope of the evaluator. -/
  | build (segments : List Segment)
  /-- Resolve a segment on its own. -/
  | resolve (segment : Segment)
  /-- Execute a fragment on its own. -/
  | evaluate (fragment : Fragment)

/-- What happened to a session, and which fragment of a build was passed with
which text. -/
structure Event (κ : Type) where
  before : Session κ
  after : Session κ
  passed? : Option (Fragment × Text) := none

namespace Event

/-- The sessions before and after the event. -/
def sessions (event : Event κ) : List (Session κ) :=
  [event.before, event.after]

/-- In the event a build got past a fragment that publishes under the name, by
an execution. -/
def executes (name : Text) (event : Event κ) : Bool :=
  match event.passed? with
  | none => false
  | some (fragment, _) =>
      fragment.publishedName = some name ∧ event.before.executions ≠ event.after.executions

theorem executes_iff {name : Text} {event : Event κ} :
    event.executes name = true ↔ ∃ fragment text, event.passed? = some (fragment, text) ∧
      fragment.publishedName = some name ∧
        event.before.executions ≠ event.after.executions := by
  cases passed : event.passed? with
  | none => simp [executes, passed]
  | some pair => simp [executes, passed, Prod.ext_iff]

end Event

namespace Use

/-- The session that the use leaves, whether it fails or not. -/
def leave (host : Host κ) (session : Session κ) : Use → Session κ
  | build segments => stateLeft (Session.build host segments session)
  | resolve segment => stateLeft (segment.resolve (Session.evaluator host) session)
  | evaluate fragment => stateLeft (fragment.evaluate (Session.evaluator host) session)

/-- What happens to the session in the use.  Behind a failing fragment of a
build there are only events without any change. -/
def events (host : Host κ) (session : Session κ) : Use → List (Event κ)
  | build segments => (List.range segments.length).map fun index =>
      { before := (build (segments.take index)).leave host session
        after := (build (segments.take (index + 1))).leave host session
        passed? := session.passed? host segments index }
  | resolve segment => [{ before := session, after := (resolve segment).leave host session }]
  | evaluate fragment => [{ before := session, after := (evaluate fragment).leave host session }]

end Use

namespace Session

/-- The session that uses in a row leave. -/
def after (host : Host κ) (session : Session κ) (uses : List Use) : Session κ :=
  uses.foldl (Use.leave host) session

/-- What happens to the session in uses in a row. -/
def events (host : Host κ) : Session κ → List Use → List (Event κ)
  | _, [] => []
  | session, use :: later => use.events host session ++ events host (use.leave host session) later

/-- All sessions in the course of the uses, from the first to the last. -/
def course (host : Host κ) (session : Session κ) (uses : List Use) : List (Session κ) :=
  session :: (session.events host uses).flatMap Event.sessions ++ [session.after host uses]

end Session

/-! ## Single uses -/

section

variable {host : Host κ} {session : Session κ} {use : Use}

/-- A use changes nothing that the session holds. -/
theorem Use.extends_leave (host : Host κ) (session : Session κ) (use : Use) :
    (use.leave host session).bindings.Extends session.bindings := by
  cases use with
  | build segments => exact Session.extends_build host segments session
  | resolve segment =>
      cases segment with
      | literal text => exact .refl session.bindings
      | code fragment =>
          have kept := fragment.bindings_settle host .evaluator .empty session
          rw [leave, Segment.resolve, stateLeft_map]
          exact kept.symm ▸ .refl session.bindings
  | evaluate fragment =>
      rw [leave, Fragment.evaluate_apply, Session.stateLeft_execute]
      exact .refl session.bindings

/-- An event in a course from the first session to the last one: it changes
nothing that is held, and what it tells of a fragment is explained by building
the fragment alone. -/
structure Event.Within (host : Host κ) (first last : Session κ) (event : Event κ) : Prop where
  begins : event.before.bindings.Extends first.bindings
  keeps : event.after.bindings.Extends event.before.bindings
  ends : last.bindings.Extends event.after.bindings
  passed : ∀ fragment text, event.passed? = some (fragment, text) →
    Session.build host [.code fragment] event.before = .ok text event.after

theorem Event.Within.mono {event : Event κ} {first last earlier later : Session κ}
    (within : event.Within host first last) (start : first.bindings.Extends earlier.bindings)
    (goesOn : later.bindings.Extends last.bindings) : event.Within host earlier later :=
  ⟨within.begins.trans start, within.keeps, goesOn.trans within.ends, within.passed⟩

/-- The sessions of an event lie between its beginning and its end. -/
theorem Event.Within.extends_of_mem {event : Event κ} {first last visited : Session κ}
    (within : event.Within host first last) (mem : visited ∈ event.sessions) :
    visited.bindings.Extends event.before.bindings ∧
      event.after.bindings.Extends visited.bindings := by
  rcases List.mem_cons.mp mem with rfl | mem
  · exact ⟨.refl _, within.keeps⟩
  · obtain rfl := List.mem_singleton.mp mem
    exact ⟨within.keeps, .refl _⟩

/-- Every event of a use is one from the session to the session that is left. -/
theorem Use.within_of_mem {event : Event κ} (mem : event ∈ use.events host session) :
    event.Within host session (use.leave host session) := by
  cases use with
  | build segments =>
      obtain ⟨index, inside, rfl⟩ := List.mem_map.mp mem
      have initial := Session.extends_build_take host segments session index.zero_le
      have whole := Session.extends_build_take host segments session
        (Nat.succ_le_of_lt (List.mem_range.mp inside))
      rw [List.take_length] at whole
      refine ⟨initial, ?_, whole, ?_⟩
      · exact Session.extends_build_take host segments session index.le_succ
      · intro fragment text passed
        obtain ⟨_, front, reached, next, frontRan, here, ran⟩ :=
          Session.passed?_eq_some_iff.mp passed
        simpa only [Use.leave, frontRan, ran, stateLeft] using here
  | resolve segment =>
      obtain rfl := List.mem_singleton.mp mem
      exact ⟨.refl _, Use.extends_leave host session _, .refl _, by simp⟩
  | evaluate fragment =>
      obtain rfl := List.mem_singleton.mp mem
      exact ⟨.refl _, Use.extends_leave host session _, .refl _, by simp⟩

/-- An event comes behind another one. -/
def Event.Follows (later earlier : Event κ) : Prop :=
  later.before.bindings.Extends earlier.after.bindings

theorem Use.pairwise_events (host : Host κ) (session : Session κ) (use : Use) :
    (use.events host session).Pairwise fun earlier later => later.Follows earlier := by
  cases use with
  | build segments =>
      apply List.Pairwise.map _ _ List.pairwise_lt_range
      intro index other less
      exact Session.extends_build_take host segments session less
  | resolve segment => exact List.pairwise_singleton _ _
  | evaluate fragment => exact List.pairwise_singleton _ _

end

/-! ## Uses in a row -/

namespace Session

variable {host : Host κ} {session : Session κ} {uses : List Use}

theorem extends_after (host : Host κ) (session : Session κ) (uses : List Use) :
    (session.after host uses).bindings.Extends session.bindings := by
  induction uses generalizing session with
  | nil => exact .refl session.bindings
  | cons use later ih => exact (ih _).trans (use.extends_leave host session)

theorem within_of_mem {event : Event κ} (mem : event ∈ session.events host uses) :
    event.Within host session (session.after host uses) := by
  induction uses generalizing session with
  | nil => contradiction
  | cons use later ih =>
      rcases List.mem_append.mp mem with here | behind
      · exact (Use.within_of_mem here).mono (.refl _) (extends_after host _ later)
      · exact (ih behind).mono (use.extends_leave host session) (.refl _)

theorem pairwise_events (host : Host κ) (session : Session κ) (uses : List Use) :
    (session.events host uses).Pairwise fun earlier later => later.Follows earlier := by
  induction uses generalizing session with
  | nil => exact .nil
  | cons use later ih =>
      refine List.pairwise_append.mpr ⟨use.pairwise_events host session, ih _, ?_⟩
      intro event here other behind
      exact (within_of_mem behind).begins.trans (Use.within_of_mem here).ends

/-- Whatever is held at one time in the course of uses is held from then on. -/
theorem pairwise_course (host : Host κ) (session : Session κ) (uses : List Use) :
    (session.course host uses).Pairwise fun earlier later =>
      later.bindings.Extends earlier.bindings := by
  refine List.pairwise_append.mpr ⟨List.pairwise_cons.mpr ⟨?_, ?_⟩, List.pairwise_singleton _ _, ?_⟩
  · intro visited mem
    obtain ⟨event, inside, mem⟩ := List.mem_flatMap.mp mem
    have within := within_of_mem inside
    exact (within.extends_of_mem mem).1.trans within.begins
  · refine List.pairwise_flatMap.mpr ⟨?_, ?_⟩
    · intro event inside
      exact List.pairwise_pair.mpr (within_of_mem inside).keeps
    · apply (pairwise_events host session uses).imp_of_mem
      intro earlier later inside insideToo follows visited mem other memToo
      have reached := ((within_of_mem inside).extends_of_mem mem).2
      have goesOn := ((within_of_mem insideToo).extends_of_mem memToo).1
      exact (goesOn.trans follows).trans reached
  · intro visited mem final isFinal
    obtain rfl := List.mem_singleton.mp isFinal
    rcases List.mem_cons.mp mem with rfl | mem
    · exact extends_after host _ uses
    · obtain ⟨event, inside, mem⟩ := List.mem_flatMap.mp mem
      have within := within_of_mem inside
      exact within.ends.trans (within.extends_of_mem mem).2

/-! ## Names -/

/-- The text that a fragment has contributed is held under its name from then
on. -/
theorem get?_of_passed {event : Event κ} (inside : event ∈ session.events host uses)
    {fragment : Fragment} {name text : Text} (passed : event.passed? = some (fragment, text))
    (named : fragment.publishedName = some name) :
    (session.after host uses).bindings.get? name = some text := by
  have within := within_of_mem inside
  exact within.ends name text (get?_of_build_code (within.passed fragment text passed) named)

/-- Behind a fragment that was passed, a fragment of the same name is not
executed. -/
theorem not_executes_of_follows {earlier later : Event κ}
    (inside : earlier ∈ session.events host uses) (insideToo : later ∈ session.events host uses)
    (follows : later.Follows earlier) {name : Text} (executes : earlier.executes name = true) :
    ¬later.executes name = true := by
  rw [Event.executes_iff] at executes ⊢
  rintro ⟨otherFragment, otherText, passedToo, namedToo, counted⟩
  obtain ⟨fragment, text, passed, named, -⟩ := executes
  have held := get?_of_build_code ((within_of_mem inside).passed fragment text passed) named
  have again := (within_of_mem insideToo).passed otherFragment otherText passedToo
  rw [build_code_of_bound host namedToo (follows name text held)] at again
  obtain ⟨-, same⟩ := EStateM.Result.ok.inj again
  exact counted (congrArg executions same)

/-- If nothing behind a counted element is counted, at most one is. -/
theorem countP_le_one {α : Type} {counted : α → Bool} {elements : List α}
    (once : elements.Pairwise fun earlier later =>
      counted earlier = true → ¬counted later = true) : elements.countP counted ≤ 1 := by
  induction elements with
  | nil => exact Nat.zero_le 1
  | cons first others ih =>
      obtain ⟨behind, later⟩ := List.pairwise_cons.mp once
      by_cases here : counted first = true
      · have none : others.countP counted = 0 :=
          List.countP_eq_zero.mpr fun other mem => behind other mem here
        simp [List.countP_cons_of_pos here, none]
      · rw [List.countP_cons_of_neg here]
        exact ih later

/-- As long as a session is only used, it keeps all that it ever held; each
name is executed successfully at most once in all builds, and all fragments of
the name that were passed in any build have contributed one text, which the
session holds in the end. -/
theorem names_written_once (host : Host κ) (session : Session κ) (uses : List Use) :
    ((session.course host uses).Pairwise fun earlier later =>
      later.bindings.Extends earlier.bindings) ∧
    ∀ name, (session.events host uses).countP (Event.executes name) ≤ 1 ∧
      ∃ text, ∀ event ∈ session.events host uses, ∀ fragment contributed,
        event.passed? = some (fragment, contributed) → fragment.publishedName = some name →
          contributed = text ∧ (session.after host uses).bindings.get? name = some text := by
  refine ⟨pairwise_course host session uses, fun name => ⟨?_, ?_⟩⟩
  · apply countP_le_one
    apply (pairwise_events host session uses).imp_of_mem
    intro earlier later inside insideToo follows executes
    exact not_executes_of_follows inside insideToo follows executes
  · refine ⟨((session.after host uses).bindings.get? name).getD [], ?_⟩
    intro event inside fragment contributed passed named
    rw [get?_of_passed inside passed named]
    exact ⟨rfl, rfl⟩

/-- A failing build, a fragment executed on its own and a segment resolved on its
own come between two builds that show one name; the host would have executed it
differently the second time. -/
theorem names_written_once_between :
    let host : Host Nat := fun code _ count =>
      if code = ['!'] then .error (.execution code) (count + 1)
      else .ok (code ++ List.replicate count '+') (count + 1)
    let session : Session Nat := { memory := 0 }
    let uses : List Use := [.build [.code ⟨['a'], some ['x']⟩, .code ⟨['!'], none⟩],
      .evaluate ⟨['b'], some ['x']⟩, .resolve (.code ⟨['c'], some ['y']⟩),
      .build [.code ⟨['d'], some ['y']⟩, .literal ['-'], .code ⟨['e'], some ['x']⟩]]
    (session.events host uses).map (fun event => event.passed?.map Prod.snd) =
        [some ['a'], none, none, none, some ['d', '+', '+', '+', '+'], none, some ['a']] ∧
      (session.events host uses).countP (Event.executes ['x']) ≤ 1 := by
  intro host session uses
  exact ⟨by rfl, ((names_written_once host session uses).2 ['x']).1⟩

end Session

end Inlay
