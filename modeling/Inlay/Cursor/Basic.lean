import Inlay.Fault

/-!
# Cursors

A cursor is a place in a source: the characters already read, nearest first,
and those still to come.  Together they are the source, which no operation on
a cursor changes; the number of characters read is the position.

The location of a place is its line, counted from one, and its column, counted
from zero.  Only a line feed ends a line.  A cursor may remember the location
of its place; one that moves forgets it.
-/

namespace Inlay

/-- A line, counted from one, and a column in it, counted from zero. -/
structure Location where
  line : Nat
  column : Nat
  deriving DecidableEq

/-- The location behind the given characters, nearest first. -/
def Location.behind (before : Text) : Location where
  line := before.count '\n' + 1
  column := (before.takeWhile (· != '\n')).length

/-- A place in a source. -/
structure Cursor where
  /-- What was read, nearest character first. -/
  before : Text
  /-- What is still to come. -/
  after : Text
  /-- The location of the place, when it was asked for since the last move. -/
  located : Option Location := none
  deriving DecidableEq

namespace Cursor

/-- The cursor in front of a source. -/
def start (source : Text) : Cursor where
  before := []
  after := source

/-- The cursor in front of a source that has something to read. -/
def ofSource (source : Text) : Except Fault Cursor :=
  if source.isEmpty then .error .emptySource else .ok (start source)

/-- What was read, in order. -/
def consumed (cursor : Cursor) : Text :=
  cursor.before.reverse

/-- The whole source. -/
def source (cursor : Cursor) : Text :=
  cursor.before.reverse ++ cursor.after

/-- Number of characters read. -/
def position (cursor : Cursor) : Nat :=
  cursor.before.length

/-- Number of characters of the source. -/
def length (cursor : Cursor) : Nat :=
  cursor.before.length + cursor.after.length

/-- Whether nothing is left to read. -/
def atEnd (cursor : Cursor) : Bool :=
  cursor.after.isEmpty

/-- The location of the place: the remembered one, if there is one. -/
def location (cursor : Cursor) : Location :=
  cursor.located.getD (Location.behind cursor.before)

/-- Remember the location of the place. -/
def locate (cursor : Cursor) : Cursor :=
  { cursor with located := some cursor.location }

/-- Move forward over `run`, with `rest` still to come.  An empty run is no
move. -/
def pass (cursor : Cursor) (run rest : Text) : Cursor :=
  if run.isEmpty then cursor else ⟨run.reverse ++ cursor.before, rest, none⟩

/-- Move to a position of the source.  Whoever moves sees to it that there is such
a position. -/
def moveTo (cursor : Cursor) (position : Nat) : Cursor where
  before := (cursor.source.take position).reverse
  after := cursor.source.drop position

@[simp]
theorem source_start (source : Text) : (start source).source = source := by
  simp [start, Cursor.source]

@[simp]
theorem position_start (source : Text) : (start source).position = 0 :=
  rfl

@[simp]
theorem source_locate (cursor : Cursor) : cursor.locate.source = cursor.source :=
  rfl

@[simp]
theorem position_locate (cursor : Cursor) : cursor.locate.position = cursor.position :=
  rfl

theorem length_source (cursor : Cursor) : cursor.source.length = cursor.length := by
  simp [source, length]

theorem position_le_length (cursor : Cursor) : cursor.position ≤ cursor.length :=
  Nat.le_add_right ..

@[simp]
theorem pass_nil (cursor : Cursor) (rest : Text) : cursor.pass [] rest = cursor :=
  rfl

@[simp]
theorem pass_cons (cursor : Cursor) (c : Char) (run rest : Text) :
    cursor.pass (c :: run) rest = ⟨(c :: run).reverse ++ cursor.before, rest, none⟩ :=
  rfl

/-- Passing over what comes next keeps the source. -/
theorem source_pass {cursor : Cursor} {run rest : Text} (splits : cursor.after = run ++ rest) :
    (cursor.pass run rest).source = cursor.source := by
  cases run with
  | nil => rfl
  | cons c run => simp [source, splits]

@[simp]
theorem source_moveTo (cursor : Cursor) (position : Nat) :
    (cursor.moveTo position).source = cursor.source := by
  simp [moveTo, source]

/-- Moving reaches every position of the source. -/
theorem position_moveTo {cursor : Cursor} {position : Nat} (inside : position ≤ cursor.length) :
    (cursor.moveTo position).position = position := by
  rw [← length_source] at inside
  simp [moveTo, Cursor.position, inside]

end Cursor

end Inlay
