import Inlay.Proofs.Build.Sessions
import Inlay.Proofs.Build.Views

/-!
# Recording the executions of a session

A host can be made to keep a record of its executions: the code it was handed,
the bindings it was shown, and how the execution ended.  The record is kept
beside the memory of the host, which does what it did before; so a session
with a recorded host is, without its record, the session with the host itself.
-/

namespace Inlay

variable {κ : Type}

/-- One execution: what the host was handed, and how it ended. -/
structure Execution where
  code : Text
  bindings : Store Text
  outcome : Except Fault Text

/-- The host that keeps a record of its executions beside its memory. -/
def Host.recorded (host : Host κ) : Host (κ × List Execution) :=
  fun code bindings (memory, record) =>
    match host code bindings memory with
    | .ok value memory => .ok value (memory, record ++ [⟨code, bindings, .ok value⟩])
    | .error fault memory => .error fault (memory, record ++ [⟨code, bindings, .error fault⟩])

namespace Session

/-- The session before a record is kept of it. -/
def recording (session : Session κ) : Session (κ × List Execution) :=
  ⟨(session.memory, []), session.bindings, session.normalizes, session.executions⟩

/-- The session without its record. -/
def forget (session : Session (κ × List Execution)) : Session κ :=
  ⟨session.memory.1, session.bindings, session.normalizes, session.executions⟩

/-- The executions so far, oldest first. -/
def record (session : Session (κ × List Execution)) : List Execution :=
  session.memory.2

/-- The session after an execution. -/
def afterExecution (session : Session (κ × List Execution)) (memory : κ) (execution : Execution) :
    Session (κ × List Execution) :=
  { session with
    memory := (memory, session.record ++ [execution])
    executions := session.executions + 1 }

/-- An execution is recorded with its outcome, and changes neither the bindings
nor what is wanted of durations. -/
theorem execute_recorded (host : Host κ) (code : Text) (session : Session (κ × List Execution)) :
    (∃ value memory, execute host.recorded code session =
      .ok value (session.afterExecution memory ⟨code, session.bindings, .ok value⟩)) ∨
    ∃ fault memory, execute host.recorded code session =
      .error fault (session.afterExecution memory ⟨code, session.bindings, .error fault⟩) := by
  cases ran : host code session.bindings session.memory.1 with
  | ok value memory =>
      refine .inl ⟨value, memory, ?_⟩
      simp only [execute, Host.recorded, ran, afterExecution, record]
  | error fault memory =>
      refine .inr ⟨fault, memory, ?_⟩
      simp only [execute, Host.recorded, ran, afterExecution, record]

/-- Without its record, a recorded session is that of the host itself. -/
theorem seenAs_forget (host : Host κ) :
    (evaluator host.recorded).SeenAs (evaluator host) forget where
  execute := by
    intro code session
    cases ran : host code session.bindings session.memory.1 with
    | ok value memory =>
        simp only [evaluator, execute, Host.recorded, forget, ran, Sequence.seen]
    | error fault memory =>
        simp only [evaluator, execute, Host.recorded, forget, ran, Sequence.seen]
  lookup := fun _ _ => rfl
  publish := fun _ _ _ => rfl
  shown := rfl
  normalizes := fun _ => rfl

end Session

end Inlay
