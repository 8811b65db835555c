import Inlay.Config.Toml.Moment
import Inlay.Config.Toml.Number
import Inlay.Config.Tree

/-!
# Assembling a TOML document

A document is assembled from its statements, one after the other.  Each table
remembers how it came about, because that decides what may still be added:

* a table stated by a header cannot be stated again, and dotted keys cannot
  lead into it or through it;
* a table implied by the header of a table below it can be stated once, unless a
  dotted key leads into it or through it, which makes it a table of dotted keys;
* a table of dotted keys is extended by dotted keys and by the headers of tables
  below it, and cannot be stated;
* a table written inline is finished.

An array of tables stands for its last table.  Dotted keys may lead through it,
but not into it.

No key is given twice.  Every operation is partial, and has no result where
the document breaks these rules.
-/

namespace Inlay.Config.Toml

/-- How a table came about. -/
inductive Origin where
  | header
  | implied
  | dotted
  | inline
  deriving DecidableEq

/-- A value in a document. -/
inductive Node where
  | text (content : Text)
  | integer (value : Int)
  | floating (value : Floating)
  | boolean (value : Bool)
  | moment (value : Moment)
  /-- An array that is written between brackets. -/
  | array (items : List Node)
  /-- An array that headers add tables to, the last one first. -/
  | tables (items : List Node)
  | table (origin : Origin) (entries : List (Text × Node))

/-- A key that leads through tables. -/
structure Key where
  parents : List Text
  last : Text
  deriving DecidableEq

/-- The names of a key in order. -/
def Key.names (key : Key) : List Text :=
  key.parents ++ [key.last]

namespace Node

/-- What a table is once a dotted key, or a header, leads into it or through it,
if that is possible. -/
def passed? (byDots : Bool) : Origin → Option Origin
  | .inline => none
  | .header => if byDots then none else some .header
  | .implied => some (if byDots then .dotted else .implied)
  | .dotted => some .dotted

/-- Change what is under a name of a table, if the change is possible. -/
def alter? (name : Text) (change : Option Node → Option Node) : Node → Option Node
  | .table origin entries => (.table origin ·) <$> Entries.alter? name change entries
  | _ => none

/-- Change the table that names lead to from a table.  Tables that are missing
on the way are added; an array of tables stands for its last one. -/
def within (byDots : Bool) (change : Node → Option Node) : List Text → Node → Option Node
  | [] => change
  | name :: names => alter? name fun
      | none =>
          within byDots change names (.table (if byDots then .dotted else .implied) [])
      | some (.table origin entries) => do
          within byDots change names (.table (← passed? byDots origin) entries)
      | some (.tables (last :: earlier)) =>
          (fun changed => .tables (changed :: earlier)) <$> within byDots change names last
      | some _ => none

/-- Add a value to a table under a name that is new. -/
def add (name : Text) (value : Node) : Node → Option Node :=
  alter? name fun
    | none => some value
    | some _ => none

/-- Whether the node is a table of dotted keys. -/
def isDotted : Node → Bool
  | .table .dotted _ => true
  | _ => false

/-- Give a key its value.  A dotted key leads into a table of dotted keys. -/
def assign (key : Key) (value : Node) : Node → Option Node :=
  if key.parents.isEmpty then
    add key.last value
  else
    within true (fun table => if table.isDotted then add key.last value table else none)
      key.parents

/-- State a table by a header. -/
def openTable (key : Key) : Node → Option Node :=
  within false (alter? key.last fun
    | none => some (.table .header [])
    | some (.table .implied entries) => some (.table .header entries)
    | some _ => none) key.parents

/-- Add a table to an array of tables by a header. -/
def appendTable (key : Key) : Node → Option Node :=
  within false (alter? key.last fun
    | none => some (.tables [.table .header []])
    | some (.tables items) => some (.tables (.table .header [] :: items))
    | some _ => none) key.parents

mutual

/-- The configuration tree of a value. -/
def toTree : Node → Tree
  | .text content => .text content
  | .integer value => .text (toString value).toList
  | .floating value => .text value.written
  | .boolean value => .text (toString value).toList
  | .moment value => .text value.written
  | .array items => .list (toTrees items)
  | .tables items => .list (toTrees items).reverse
  | .table _ entries => .table (entriesToTrees entries)

/-- The configuration trees of values. -/
def toTrees : List Node → List Tree
  | [] => []
  | node :: nodes => node.toTree :: toTrees nodes

/-- The configuration trees of the entries of a table. -/
def entriesToTrees : Entries Node → Entries Tree
  | [] => []
  | (name, node) :: entries => (name, node.toTree) :: entriesToTrees entries

end

end Node

end Inlay.Config.Toml
