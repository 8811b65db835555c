import Inlay.Evaluator.Basic
import Inlay.Evaluator.Store
import Inlay.Fault
import Inlay.Text.Quoted

/-!
# Sessions

A session is an evaluator state kept in memory: the published texts, the
number of times that code was handed to the host, and whatever the host
remembers between executions.  Executing is left to the host, which sees the
code and the published texts; an execution counts even if it fails.
-/

namespace Inlay

/-- How the host executes code, given the published texts.  The host may keep
a memory `κ`. -/
abbrev Host (κ : Type) : Type :=
  Text → Store Text → EStateM Fault κ Text

/-- The state of an evaluator in memory. -/
structure Session (κ : Type) where
  /-- What the host remembers. -/
  memory : κ
  /-- The published texts. -/
  bindings : Store Text := .empty
  /-- Whether durations in code are rewritten first. -/
  normalizes : Bool := false
  /-- How often code was handed to the host. -/
  executions : Nat := 0

namespace Session

variable {κ : Type}

/-- Hand code to the host. -/
def execute (host : Host κ) (code : Text) : EStateM Fault (Session κ) Text := fun session =>
  let counted := { session with executions := session.executions + 1 }
  match host code session.bindings session.memory with
  | .ok value memory => .ok value { counted with memory }
  | .error fault memory => .error fault { counted with memory }

/-- Publish a text under a name. -/
def publish (name value : Text) (session : Session κ) : Session κ :=
  { session with bindings := session.bindings.insert name value }

/-- Forget all published texts. -/
def clear (session : Session κ) : Session κ :=
  { session with bindings := .empty }

/-- The evaluator whose states are sessions with a given host. -/
def evaluator (host : Host κ) : Evaluator (Session κ) Text Fault where
  execute := execute host
  lookup name session := (session.bindings.get? name, session)
  publish := publish
  shown := id
  normalizes := normalizes

/-- How a session is described, with its published texts in their order. -/
def describe (session : Session κ) : Text :=
  let binding (entry : Text × Text) : Text := entry.1.quoted ++ ": ".toList ++ entry.2.quoted
  "MemoryEvaluator \x7b bindings: \x7b".toList ++
    ", ".toList.intercalate (session.bindings.entries.map binding) ++
    "\x7d, normalize_durations: ".toList ++ (toString session.normalizes).toList ++
    ", executions: ".toList ++ Nat.toDigits 10 session.executions ++ " \x7d".toList

end Session

end Inlay
