import Inlay.Proofs.Build.Recording

/-!
# Runs of a build

In a session a build takes one step for each segment that it gets past.  A step
has a share in the result: the text that the segment contributes, and the
execution that was made for it, if no text was found.  A run is a sequence of
steps, and the build of some segments is their run, either to the last of them
or to a fragment that fails.  Properties of builds are proved of single steps
and then, by induction, of runs.
-/

namespace Inlay

open Sequence

variable {κ : Type}

/-- What a segment brings to a build: the text that it contributes, and the
execution that is made for it, if there is one. -/
structure Share where
  segment : Segment
  text : Text
  execution? : Option Execution

/-- How far a build in a session has come: the texts that the build has
published, and the session, in which executions are recorded. -/
structure Stage (κ : Type) where
  published : Store Text
  session : Session (κ × List Execution)

namespace Stage

/-- Where a build in a session starts from. -/
def initial (session : Session κ) : Stage κ :=
  ⟨.empty, session.recording⟩

/-- The text that the fragment finds at this stage. -/
def found (scope : Scope) (stage : Stage κ) (fragment : Fragment) : Option Text :=
  fragment.found scope stage.published stage.session.bindings

/-- The execution of the fragment at this stage, with its outcome. -/
def execution (stage : Stage κ) (fragment : Fragment) (outcome : Except Fault Text) : Execution :=
  ⟨fragment.handed stage.session.normalizes, stage.session.bindings, outcome⟩

/-- The stage after an execution. -/
def afterExecution (stage : Stage κ) (memory : κ) (execution : Execution) : Stage κ :=
  { stage with session := stage.session.afterExecution memory execution }

/-- The stage after the value of the fragment was published. -/
def announce (stage : Stage κ) (fragment : Fragment) (value : Text) : Stage κ where
  published := fragment.note value stage.published
  session := { stage.session with bindings := fragment.note value stage.session.bindings }

/-! ## Steps -/

/-- A step of a build: a literal is copied, and a fragment either finds a text
or is executed. -/
inductive Step (host : Host κ) (scope : Scope) : Stage κ → Share → Stage κ → Prop
  | literal (stage : Stage κ) (text : Text) :
      Step host scope stage ⟨.literal text, text, none⟩ stage
  | found {stage : Stage κ} {fragment : Fragment} {value : Text} :
      stage.found scope fragment = some value →
      Step host scope stage ⟨.code fragment, value, none⟩ (stage.announce fragment value)
  | executed {stage : Stage κ} {fragment : Fragment} {value : Text} {memory : κ} :
      stage.found scope fragment = none →
      Session.execute host.recorded (fragment.handed stage.session.normalizes) stage.session =
        .ok value (stage.session.afterExecution memory (stage.execution fragment (.ok value))) →
      Step host scope stage ⟨.code fragment, value, some (stage.execution fragment (.ok value))⟩
        ((stage.afterExecution memory (stage.execution fragment (.ok value))).announce
          fragment value)

/-- A fragment that finds no text fails when it is executed. -/
structure Stops (host : Host κ) (scope : Scope) (stage : Stage κ) (fragment : Fragment)
    (fault : Fault) (memory : κ) : Prop where
  missing : stage.found scope fragment = none
  failed : Session.execute host.recorded (fragment.handed stage.session.normalizes)
    stage.session =
      .error fault (stage.session.afterExecution memory (stage.execution fragment (.error fault)))

variable {host : Host κ} {scope : Scope} {stage next reached : Stage κ} {share : Share}
  {fragment : Fragment} {fault : Fault} {memory : κ}

/-- At every stage a segment gives occasion for a step, or the build stops. -/
theorem step_or_stops (host : Host κ) (scope : Scope) (stage : Stage κ) (segment : Segment) :
    (∃ share next, share.segment = segment ∧ Step host scope stage share next) ∨
      ∃ fragment fault memory,
        segment = .code fragment ∧ Stops host scope stage fragment fault memory := by
  cases segment with
  | literal text => exact .inl ⟨_, _, rfl, .literal stage text⟩
  | code fragment =>
      cases found : stage.found scope fragment with
      | some value => exact .inl ⟨_, _, rfl, .found found⟩
      | none =>
          rcases Session.execute_recorded host (fragment.handed stage.session.normalizes)
            stage.session with ⟨value, memory, ran⟩ | ⟨fault, memory, ran⟩
          · exact .inl ⟨_, _, rfl, .executed found ran⟩
          · exact .inr ⟨fragment, fault, memory, rfl, found, ran⟩

/-- A step is what a build does with the first of its segments. -/
theorem Step.buildAfter (step : Step host scope stage share next) (later : List Segment) :
    Segment.buildAfter (Session.evaluator host.recorded) scope stage.published
        (share.segment :: later) stage.session =
      ((share.text ++ ·) <$> Segment.buildAfter (Session.evaluator host.recorded) scope
        next.published later) next.session := by
  cases step with
  | literal text => rw [Segment.buildAfter_literal]
  | found found =>
      rw [Segment.buildAfter_code_of_ok (Fragment.settle_of_found found),
        Fragment.announce_session]
      rfl
  | executed missing ran =>
      have settled := (Fragment.settle_of_not_found missing).trans ran
      rw [Segment.buildAfter_code_of_ok settled, Fragment.announce_session]
      rfl

/-! ## Runs -/

/-- A run: the steps of a build, each from where the one before it led. -/
inductive Run (host : Host κ) (scope : Scope) : Stage κ → List Share → Stage κ → Prop
  | nil (stage : Stage κ) : Run host scope stage [] stage
  | cons {stage next reached : Stage κ} {share : Share} {shares : List Share} :
      Step host scope stage share next → Run host scope next shares reached →
      Run host scope stage (share :: shares) reached

variable {shares earlier later : List Share}

/-- A run can be interrupted behind any of its shares. -/
theorem run_append_iff :
    Run host scope stage (earlier ++ later) reached ↔
      ∃ middle, Run host scope stage earlier middle ∧ Run host scope middle later reached := by
  induction earlier generalizing stage with
  | nil =>
      constructor
      · intro run
        exact ⟨stage, .nil stage, run⟩
      · rintro ⟨middle, first, second⟩
        cases first
        exact second
  | cons share earlier ih =>
      constructor
      · intro run
        cases run with
        | cons step run =>
            obtain ⟨middle, first, second⟩ := ih.mp run
            exact ⟨middle, .cons step first, second⟩
      · rintro ⟨middle, first, second⟩
        cases first with
        | cons step first => exact .cons step (ih.mpr ⟨middle, first, second⟩)

/-- A build of segments runs past all of them, or it stops at one. -/
theorem exists_run (host : Host κ) (scope : Scope) (segments : List Segment) (stage : Stage κ) :
    ∃ shares reached, Run host scope stage shares reached ∧
      (shares.map Share.segment = segments ∨
        ∃ fragment later fault memory,
          shares.map Share.segment ++ .code fragment :: later = segments ∧
            Stops host scope reached fragment fault memory) := by
  induction segments generalizing stage with
  | nil => exact ⟨[], stage, .nil stage, .inl rfl⟩
  | cons segment segments ih =>
      rcases step_or_stops host scope stage segment with
        ⟨share, next, rfl, step⟩ | ⟨fragment, fault, memory, rfl, stops⟩
      · obtain ⟨shares, reached, run, ending⟩ := ih next
        refine ⟨share :: shares, reached, .cons step run, ?_⟩
        rcases ending with rfl | ⟨fragment, later, fault, memory, rfl, stops⟩
        · exact .inl rfl
        · exact .inr ⟨fragment, later, fault, memory, rfl, stops⟩
      · exact ⟨[], stage, .nil stage, .inr ⟨fragment, segments, fault, memory, rfl, stops⟩⟩

/-- A run is what a build does with the first of its segments. -/
theorem Run.buildAfter (run : Run host scope stage shares reached) (later : List Segment) :
    Segment.buildAfter (Session.evaluator host.recorded) scope stage.published
        (shares.map Share.segment ++ later) stage.session =
      ((shares.flatMap Share.text ++ ·) <$> Segment.buildAfter (Session.evaluator host.recorded)
        scope reached.published later) reached.session := by
  induction run with
  | nil stage => simp
  | cons step run ih =>
      rw [List.map_cons, List.cons_append, step.buildAfter, map_of_eq ih]
      simp

/-- A build whose run gets past all segments succeeds. -/
theorem Run.buildAfter_eq_ok (run : Run host scope stage shares reached) :
    Segment.buildAfter (Session.evaluator host.recorded) scope stage.published
        (shares.map Share.segment) stage.session =
      .ok (shares.flatMap Share.text) reached.session := by
  have built := run.buildAfter []
  rwa [List.append_nil, Segment.buildAfter_nil, map_pure, List.append_nil] at built

/-- A build whose run stops at a fragment fails, whatever is behind it. -/
theorem Run.buildAfter_eq_error (run : Run host scope stage shares reached)
    (stops : Stops host scope reached fragment fault memory) (later : List Segment) :
    Segment.buildAfter (Session.evaluator host.recorded) scope stage.published
        (shares.map Share.segment ++ .code fragment :: later) stage.session =
      .error fault (reached.afterExecution memory
        (reached.execution fragment (.error fault))).session := by
  have settled := (Fragment.settle_of_not_found stops.missing).trans stops.failed
  rw [run.buildAfter, map_of_error (Segment.buildAfter_code_of_error settled)]
  rfl

end Stage

end Inlay
