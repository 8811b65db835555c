import Inlay.Evaluator.Session
import Inlay.Proofs.Build.Steps

/-!
# Builds in a session

In a session a fragment either finds a published text, which leaves the session
as it is, or hands its code to the host.  Which of the two happens is decided
by the bindings alone, and what the host does to the session is limited to its
own memory and the count of executions.
-/

namespace Inlay

open Sequence

variable {κ : Type} {host : Host κ} {session reached : Session κ} {value : Text} {fault : Fault}

namespace Session

@[simp]
theorem answer_execute (host : Host κ) (code : Text) (session : Session κ) :
    answer ((evaluator host).execute code session) =
      answer (host code session.bindings session.memory) := by
  simp only [evaluator, execute]
  cases host code session.bindings session.memory <;> rfl

/-- An execution changes what the host remembers, and is counted. -/
@[simp]
theorem stateLeft_execute (host : Host κ) (code : Text) (session : Session κ) :
    stateLeft ((evaluator host).execute code session) =
      { session with
        memory := stateLeft (host code session.bindings session.memory)
        executions := session.executions + 1 } := by
  simp only [evaluator, execute]
  cases host code session.bindings session.memory <;> rfl

end Session

namespace Fragment

/-- The text that the fragment finds under its name: in the scope of the
evaluator among the bindings, in that of the build among the texts that the
build has published. -/
def found (scope : Scope) (published bindings : Store Text) (fragment : Fragment) : Option Text :=
  match scope with
  | .evaluator => fragment.name.bind bindings.get?
  | .build => fragment.publishedName.bind published.get?

/-- In the scope of the evaluator, a fragment finds what is bound to the name
that it publishes under. -/
theorem found_of_publishedName {published bindings : Store Text} {fragment : Fragment}
    {name : Text} (named : fragment.publishedName = some name) :
    fragment.found .evaluator published bindings = bindings.get? name := by
  simp only [found, (publishedName_eq_some_iff.mp named).1, Option.bind_some]

/-- What the fragment finds is what answers for it in a session. -/
theorem answer?_session (host : Host κ) (scope : Scope) (published : Store Text)
    (fragment : Fragment) (session : Session κ) :
    fragment.answer? (Session.evaluator host) scope published session =
      fragment.found scope published session.bindings := by
  cases scope <;> rfl

/-- Looking up a name leaves the session as it is. -/
@[simp]
theorem asked_session (host : Host κ) (scope : Scope) (fragment : Fragment)
    (session : Session κ) : fragment.asked (Session.evaluator host) scope session = session := by
  cases looks : fragment.question scope <;> simp only [asked, looks, Session.evaluator]

theorem settle_of_found {scope : Scope} {published : Store Text} {fragment : Fragment}
    (found : fragment.found scope published session.bindings = some value) :
    fragment.settle (Session.evaluator host) scope published session = .ok value session := by
  rw [← answer?_session host] at found
  rw [settle_of_answer_some found, asked_session]

theorem settle_of_not_found {scope : Scope} {published : Store Text} {fragment : Fragment}
    (missing : fragment.found scope published session.bindings = none) :
    fragment.settle (Session.evaluator host) scope published session =
      Session.execute host (fragment.handed session.normalizes) session := by
  rw [← answer?_session host] at missing
  rw [settle_of_answer_none missing, asked_session]
  exact fragment.evaluate_apply (Session.evaluator host) session

/-- Announcing a value in a session notes it among the bindings. -/
theorem announce_session (host : Host κ) (fragment : Fragment) (value : Text)
    (session : Session κ) :
    fragment.announce (Session.evaluator host) value session =
      { session with bindings := fragment.note value session.bindings } := by
  cases named : fragment.publishedName with
  | none => simp only [announce, note, named]
  | some name => simp only [announce, note, named, Session.evaluator, Session.publish]

end Fragment

end Inlay
