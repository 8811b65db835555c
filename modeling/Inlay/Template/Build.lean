import Inlay.Duration.Rewrite
import Inlay.Evaluator.Basic
import Inlay.Evaluator.Store
import Inlay.Template.Basic

/-!
# Building templates

Building turns a template into text.  Literals are copied, fragments give the
text of their value.  The value of a fragment is one that was published under
its name, if its scope finds one, and otherwise the result of executing its
code.  Once a fragment has its value, executed or found, the value is published
under the name of the fragment, unless the name is blank.

In the scope of the evaluator any name is looked up, also a blank one.  In the
scope of the build only the values published by the build itself are found, and
the evaluator is not asked.  The first failing fragment ends the build.
-/

namespace Inlay

variable {σ ν ε : Type}

namespace Fragment

/-- Execute the code, with durations rewritten if the evaluator asks for
it. -/
def evaluate (evaluator : Evaluator σ ν ε) (fragment : Fragment) : EStateM ε σ ν := do
  if evaluator.normalizes (← get) then
    evaluator.execute (Duration.normalize fragment.code)
  else
    evaluator.execute fragment.code

/-- The value that the evaluator holds under the name, if there is one, and
otherwise the result of executing the code. -/
def resolve (evaluator : Evaluator σ ν ε) (fragment : Fragment) : EStateM ε σ ν := do
  match fragment.name with
  | none => evaluate evaluator fragment
  | some name =>
      match ← modifyGet (evaluator.lookup name) with
      | some value => pure value
      | none => evaluate evaluator fragment

/-- The value of the fragment within a build that has already published some
values. -/
def settle (evaluator : Evaluator σ ν ε) (scope : Scope) (published : Store ν)
    (fragment : Fragment) : EStateM ε σ ν :=
  match scope with
  | .evaluator => resolve evaluator fragment
  | .build =>
      match fragment.publishedName.bind published.get? with
      | some value => pure value
      | none => evaluate evaluator fragment

end Fragment

/-- A segment with its value. -/
inductive Resolved (ν : Type) where
  | text (content : Text)
  | value (content : ν)
  deriving DecidableEq

/-- The text of a resolved segment. -/
def Resolved.shown (evaluator : Evaluator σ ν ε) : Resolved ν → Text
  | text content => content
  | value content => evaluator.shown content

/-- Resolve one segment on its own. -/
def Segment.resolve (evaluator : Evaluator σ ν ε) : Segment → EStateM ε σ (Resolved ν)
  | literal text => pure (.text text)
  | code fragment => .value <$> fragment.resolve evaluator

namespace Segment

/-- Build segments behind others that have published some values.  The
published values are kept in either scope and consulted in that of the
build. -/
def buildAfter (evaluator : Evaluator σ ν ε) (scope : Scope) (published : Store ν) :
    List Segment → EStateM ε σ Text
  | [] => pure []
  | literal text :: later => do
      let built ← buildAfter evaluator scope published later
      pure (text ++ built)
  | code fragment :: later => do
      let value ← fragment.settle evaluator scope published
      match fragment.publishedName with
      | none =>
          let built ← buildAfter evaluator scope published later
          pure (evaluator.shown value ++ built)
      | some name =>
          modify (evaluator.publish name value)
          let built ← buildAfter evaluator scope (published.insert name value) later
          pure (evaluator.shown value ++ built)

/-- Build segments. -/
def build (evaluator : Evaluator σ ν ε) (scope : Scope) (segments : List Segment) :
    EStateM ε σ Text :=
  buildAfter evaluator scope .empty segments

end Segment

/-- Build a template in its scope. -/
def Template.build (evaluator : Evaluator σ ν ε) (template : Template) : EStateM ε σ Text :=
  Segment.build evaluator template.scope template.segments

end Inlay
