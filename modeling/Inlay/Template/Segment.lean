import Inlay.Template.Delimiters
import Inlay.Text.Basic

/-!
# Segments

A template is a sequence of segments.  A literal is text that stands for
itself.  A fragment is code, possibly with a name under which its value is
published.  A blank name counts as a name when the fragment is written or its
value is looked up, but nothing is published under it.

The written form of a segment is the template text for it.  It shows a literal
as it is, without escapes, so that not every literal can be read back.
-/

namespace Inlay

/-- Code inlaid in a template. -/
structure Fragment where
  code : Text
  name : Option Text := none
  deriving DecidableEq

/-- A part of a template. -/
inductive Segment where
  | literal (text : Text)
  | code (fragment : Fragment)
  deriving DecidableEq

namespace Fragment

/-- The name under which the value is published: the name, unless it is
blank. -/
def publishedName (fragment : Fragment) : Option Text :=
  fragment.name.filter fun name => !name.isBlank

/-- Template text for a name. -/
def writtenName (delimiters : Delimiters) : Option Text → Text
  | none => []
  | some name => delimiters.nameOpen :: name ++ [delimiters.nameClose]

/-- Template text for the fragment. -/
def written (delimiters : Delimiters) (fragment : Fragment) : Text :=
  delimiters.codeOpen :: fragment.code ++
    delimiters.codeClose :: writtenName delimiters fragment.name

@[simp]
theorem publishedName_anonymous (code : Text) :
    publishedName ⟨code, none⟩ = none :=
  rfl

/-- Exactly the names that are not blank are published. -/
theorem publishedName_eq_some_iff {fragment : Fragment} {name : Text} :
    fragment.publishedName = some name ↔ fragment.name = some name ∧ name.isBlank = false := by
  simp [publishedName, Option.filter_eq_some_iff]

end Fragment

namespace Segment

/-- The name under which the value of the segment is published. -/
def publishedName : Segment → Option Text
  | literal _ => none
  | code fragment => fragment.publishedName

/-- Template text for the segment. -/
def written (delimiters : Delimiters) : Segment → Text
  | literal text => text
  | code fragment => fragment.written delimiters

@[simp]
theorem written_literal (delimiters : Delimiters) (text : Text) :
    (literal text).written delimiters = text :=
  rfl

@[simp]
theorem written_code (delimiters : Delimiters) (fragment : Fragment) :
    (code fragment).written delimiters = fragment.written delimiters :=
  rfl

end Segment

end Inlay
