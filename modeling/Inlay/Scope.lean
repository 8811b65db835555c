import Inlay.Fault
import Inlay.Text.Lowercase

/-!
# Scopes

The scope of a build decides where a named fragment looks for a value before
its code is executed: among the values published earlier in the same build, or
among everything that the evaluator holds.  A scope is named by one of two
words, in any mixture of cases and with blanks around it.
-/

namespace Inlay

/-- Where a named fragment looks for a published value. -/
inductive Scope where
  /-- Among the values published earlier in the same build. -/
  | build
  /-- Among all values that the evaluator holds. -/
  | evaluator
  deriving DecidableEq, Inhabited

namespace Scope

/-- The word for a scope. -/
def word : Scope → Text
  | build => "build".toList
  | evaluator => "evaluator".toList

/-- The scope that a text names. -/
def parse (text : Text) : Except Fault Scope :=
  let name := text.trim.lowercase
  if name = build.word then
    .ok build
  else if name = evaluator.word then
    .ok evaluator
  else
    .error (.unknownScope name)

end Scope

end Inlay
