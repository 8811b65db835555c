import Inlay.Entries

/-!
# Configuration trees

Configuration is a tree of texts: a table has a tree under each of its names, a
list has a tree at each of its indices, and whatever is written as a single
value counts as its text.  A tree that was made room for and not yet given is
missing.

Several sources are laid over one another.  A later table is merged into what
was there name by name; everything else replaces it.  A tree can also be put at
a place, which makes tables and lists of everything on the way there.
-/

namespace Inlay.Config

/-- A tree of texts. -/
inductive Tree where
  | missing
  | text (content : Text)
  | list (items : List Tree)
  | table (entries : List (Text × Tree))

/-- A step towards a place in a tree: a name of a table or an index of a list.
Negative indices count from the end. -/
inductive Step where
  | name (name : Text)
  | index (index : Int)
  deriving DecidableEq

/-- A place in a tree. -/
abbrev Path := List Step

namespace Tree

/-- The tree with nothing in it. -/
def empty : Tree :=
  .table []

/-- The entries of a table; other trees have none. -/
def entries : Tree → Entries Tree
  | .table entries => entries
  | _ => []

/-- The items of a list; other trees have none. -/
def items : Tree → List Tree
  | .list items => items
  | _ => []

/-- What stands under a name of a table. -/
def child? (tree : Tree) (name : Text) : Option Tree :=
  tree.entries.find? name

/-- Change what is under a name.  Any tree becomes a table by that. -/
def alterName (name : Text) (change : Tree → Tree) (tree : Tree) : Tree :=
  .table (tree.entries.alter name fun below => change (below.getD missing))

/-- Change the item at an index.  Any tree becomes a list by that.  An index
behind the end makes the list longer at its end, and one in front of the
beginning at its beginning. -/
def alterIndex (index : Int) (change : Tree → Tree) (tree : Tree) : Tree :=
  let items := tree.items
  match index with
  | .ofNat index =>
      let room := List.replicate (index + 1 - items.length) missing
      .list ((items ++ room).modify index change)
  | .negSucc beforeLast =>
      let room := List.replicate (beforeLast + 1 - items.length) missing
      .list ((room ++ items).modify (items.length - (beforeLast + 1)) change)

mutual

/-- Lay a later tree over an earlier one. -/
def overlay : Tree → Tree → Tree
  | .table later, .missing => overlayEntries later empty
  | .table later, earlier => overlayEntries later earlier
  | other, _ => other

/-- Lay the entries of a later table over an earlier tree, one after the
other. -/
def overlayEntries : Entries Tree → Tree → Tree
  | [], earlier => earlier
  | (name, tree) :: later, earlier => overlayEntries later (earlier.alterName name tree.overlay)

end

/-- Put a tree at a place, over what stands there. -/
def put (tree : Tree) : Path → Tree → Tree
  | [] => tree.overlay
  | .name name :: path => alterName name (put tree path)
  | .index index :: path => alterIndex index (put tree path)

end Tree

end Inlay.Config
