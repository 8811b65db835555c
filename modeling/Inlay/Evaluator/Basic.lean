import Inlay.Text.Basic

/-!
# Evaluators

A template never runs code itself.  It hands code to an evaluator, which
executes it in its own language, holds the values published under names, and
knows how a value is shown.  An evaluator is described by what it does to its
state: executing may fail, and looking up may change the state as well.

Evaluators may ask for durations in code to be rewritten as milliseconds
before the code is executed.
-/

namespace Inlay

/-- What a template needs of an evaluator with states `σ`, values `ν` and
errors `ε`. -/
structure Evaluator (σ ν ε : Type) where
  /-- Run code. -/
  execute : Text → EStateM ε σ ν
  /-- The value published under a name. -/
  lookup : Text → σ → Option ν × σ
  /-- Publish a value under a name, in the place of any earlier one. -/
  publish : Text → ν → σ → σ
  /-- The text of a value. -/
  shown : ν → Text
  /-- Whether durations in code are rewritten first. -/
  normalizes : σ → Bool := fun _ => false

end Inlay
