import Inlay.Evaluator.Basic

/-!
# Recorded evaluators

Every evaluator has a recorded form, whose states carry the list of the calls
made so far.  The record is kept beside the state and nothing depends on it,
so a recorded evaluator does what the evaluator does.
-/

namespace Inlay

/-- A call of an evaluator. -/
inductive Call (ν : Type) where
  | lookup (name : Text)
  | execute (code : Text)
  | publish (name : Text) (value : ν)
  deriving DecidableEq

/-- The evaluator that keeps a record of its calls, oldest first. -/
def Evaluator.recorded {σ ν ε : Type} (evaluator : Evaluator σ ν ε) :
    Evaluator (σ × List (Call ν)) ν ε where
  execute code := fun (state, calls) =>
    let calls := calls ++ [.execute code]
    match evaluator.execute code state with
    | .ok value next => .ok value (next, calls)
    | .error error next => .error error (next, calls)
  lookup name := fun (state, calls) =>
    let (value, next) := evaluator.lookup name state
    (value, next, calls ++ [.lookup name])
  publish name value := fun (state, calls) =>
    (evaluator.publish name value state, calls ++ [.publish name value])
  shown := evaluator.shown
  normalizes := fun (state, _) => evaluator.normalizes state

end Inlay
