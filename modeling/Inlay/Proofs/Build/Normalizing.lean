import Inlay.Proofs.Build.Sessions
import Inlay.Proofs.Build.Views

/-!
# Builds with durations rewritten

An evaluator that wants durations rewritten is handed the code of a fragment with
its durations rewritten, and nothing else of the fragment is changed for it: the
value is looked up and published under the same name.  So building for such an
evaluator is building, for one that takes code as it is, the template in which
all code was rewritten beforehand.  It comes down to one fragment that is
executed, since that is the only place where a build looks at code.

What a session wants of durations is part of its state, and no call changes it.
-/

namespace Inlay

open Sequence

variable {σ ν ε κ : Type}

/-! ## Rewritten templates -/

/-- The fragment with the durations in its code rewritten. -/
def Fragment.normalized (fragment : Fragment) : Fragment :=
  { fragment with code := Duration.normalize fragment.code }

/-- The segment with the durations in its code rewritten; a literal has no
code. -/
def Segment.normalized : Segment → Segment
  | literal text => literal text
  | code fragment => code fragment.normalized

/-- The template with the durations in all of its code rewritten. -/
def Template.normalized (template : Template) : Template :=
  { template with segments := template.segments.map Segment.normalized }

/-- The evaluator that always wants durations rewritten, or never. -/
def Evaluator.normalizing (normalizes : Bool) (evaluator : Evaluator σ ν ε) : Evaluator σ ν ε :=
  { evaluator with normalizes := fun _ => normalizes }

/-! ## Rewriting beforehand -/

section

variable (evaluator : Evaluator σ ν ε) (scope : Scope) (published : Store ν)

/-- Code that is executed is rewritten once, either way. -/
theorem Fragment.evaluate_normalized (fragment : Fragment) :
    fragment.normalized.evaluate (evaluator.normalizing false) =
      fragment.evaluate (evaluator.normalizing true) := by
  funext state
  rw [evaluate_apply, evaluate_apply]
  rfl

/-- A fragment gets the same value, since its name is the same. -/
theorem Fragment.settle_normalized (fragment : Fragment) :
    fragment.normalized.settle (evaluator.normalizing false) scope published =
      fragment.settle (evaluator.normalizing true) scope published := by
  cases scope with
  | build =>
      simp only [settle, evaluate_normalized]
      rfl
  | evaluator =>
      simp only [settle, resolve, evaluate_normalized]
      rfl

/-- Segments are built alike, by induction on the segments. -/
theorem Segment.buildAfter_normalized (segments : List Segment) :
    buildAfter (evaluator.normalizing false) scope published (segments.map normalized) =
      buildAfter (evaluator.normalizing true) scope published segments := by
  induction segments generalizing published with
  | nil => rfl
  | cons segment later ih =>
      rw [List.map_cons]
      cases segment with
      | literal text =>
          rw [normalized, buildAfter_literal, buildAfter_literal, ih]
      | code fragment =>
          rw [normalized, buildAfter_code, buildAfter_code, Fragment.settle_normalized]
          congr
          funext value
          rw [ih]
          rfl

theorem Template.build_normalized (template : Template) :
    template.normalized.build (evaluator.normalizing false) =
      template.build (evaluator.normalizing true) :=
  Segment.buildAfter_normalized evaluator template.scope .empty template.segments

end

/-! ## Sessions -/

namespace Session

/-- The session that wants durations rewritten, or does not. -/
def normalizing (normalizes : Bool) (session : Session κ) : Session κ :=
  { session with normalizes }

/-- A session that wants the same all along is like one whose evaluator does. -/
theorem seenAs_normalizing (host : Host κ) (normalizes : Bool) :
    ((evaluator host).normalizing normalizes).SeenAs (evaluator host) (normalizing normalizes) where
  execute := by
    intro code session
    apply ext
    · rw [answer_seen, answer_execute]
      exact (answer_execute host code session).symm
    · rw [stateLeft_seen, stateLeft_execute]
      exact congrArg (normalizing normalizes) (stateLeft_execute host code session).symm
  lookup := fun _ _ => rfl
  publish := fun _ _ _ => rfl
  shown := rfl
  normalizes := fun _ => rfl

end Session

/-- Building in a session that wants durations rewritten is building the template
with all code rewritten beforehand in a session that does not, and otherwise is
the same: both end in the same text or the same fault, and leave the same
bindings, the same count of executions and the same memory of the host. -/
theorem Template.build_normalizing (host : Host κ) (template : Template) (session : Session κ) :
    let rewriting := template.build (Session.evaluator host) (session.normalizing true)
    let rewritten := template.normalized.build (Session.evaluator host) (session.normalizing false)
    answer rewriting = answer rewritten ∧
      stateLeft rewriting = (stateLeft rewritten).normalizing true := by
  intro rewriting rewritten
  have seenRewriting := (Session.seenAs_normalizing host true).build template session
  have seenRewritten := (Session.seenAs_normalizing host false).build template.normalized session
  rw [← build_normalized] at seenRewriting
  constructor
  · simp only [rewriting, rewritten, seenRewriting, seenRewritten, answer_seen]
  · simp only [rewriting, rewritten, seenRewriting, seenRewritten, stateLeft_seen]
    rfl

end Inlay
