import Inlay.Scope
import Inlay.Template.Reader

/-!
# Templates

A template is a list of segments together with the way it is presented and
built: the joiner that stands between the written segments, the scope of its
builds, and the delimiters it is written with.

The display form of a template is its segments, written with its delimiters
and joined by its joiner.
-/

namespace Inlay

/-- A list of segments, and how it is presented and built. -/
structure Template where
  segments : List Segment := []
  joiner : Text := []
  scope : Scope := .evaluator
  delimiters : Delimiters := {}
  deriving DecidableEq

namespace Template

/-! ## Making templates -/

/-- The template with the given segments and the default presentation. -/
def ofSegments (segments : List Segment) : Template where
  segments := segments

/-- The template that a text stands for. -/
def parse (delimiters : Delimiters) (source : Text) : Except Fault Template := do
  let segments ← Segment.parse delimiters source
  pure { segments, delimiters }

/-! ## Changing the segments -/

/-- Add a segment at the end. -/
def push (template : Template) (segment : Segment) : Template :=
  { template with segments := template.segments ++ [segment] }

/-- Add segments at the end. -/
def append (template : Template) (segments : List Segment) : Template :=
  { template with segments := template.segments ++ segments }

/-- Put a segment in front of the one at an index, or at the end.  There is no
place further behind. -/
def insertAt? (template : Template) (index : Nat) (segment : Segment) : Option Template :=
  if index ≤ template.segments.length then
    some { template with segments := template.segments.insertIdx index segment }
  else
    none

/-- Replace the segment at an index, if there is one. -/
def setAt? (template : Template) (index : Nat) (segment : Segment) : Option Template :=
  if index < template.segments.length then
    some { template with segments := template.segments.set index segment }
  else
    none

/-- Take out the segment at an index, if there is one. -/
def removeAt? (template : Template) (index : Nat) : Option (Segment × Template) :=
  template.segments[index]?.map fun segment =>
    (segment, { template with segments := template.segments.eraseIdx index })

/-- Drop all segments and keep the presentation. -/
def clear (template : Template) : Template :=
  { template with segments := [] }

/-! ## Looking at the segments -/

/-- Index of the first segment equal to the given one. -/
def position? (template : Template) (segment : Segment) : Option Nat :=
  template.segments.idxOf? segment

/-- Whether some segment is equal to the given one. -/
def contains (template : Template) (segment : Segment) : Bool :=
  template.segments.contains segment

/-- The written segments, joined by the joiner. -/
def display (template : Template) : Text :=
  template.joiner.intercalate (template.segments.map (Segment.written template.delimiters))

/-- Reading the display form again with the same delimiters. -/
def reparse (template : Template) : Except Fault Template :=
  parse template.delimiters template.display

/-- Without a joiner the display form is the written segments in a row. -/
theorem display_of_joiner_eq_nil {template : Template} (noJoiner : template.joiner = []) :
    template.display = template.segments.flatMap (Segment.written template.delimiters) := by
  simp only [display, noJoiner]
  induction template.segments with
  | nil => rfl
  | cons first rest ih =>
      cases rest with
      | nil => simp [List.intercalate]
      | cons second rest =>
          rw [List.flatMap_cons, ← ih]
          simp [List.intercalate]

end Template

end Inlay
