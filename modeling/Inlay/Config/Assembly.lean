import Inlay.Config.Tree
import Inlay.Fault

/-!
# Assembling configuration

A source of configuration is a list of trees with the places where they belong.
The configuration of several sources is assembled from all their trees in
order, so that later ones are laid over earlier ones.

An index makes room in a list for all items up to it.  A place with an index
that is too far from both ends is refused before anything is assembled.
-/

namespace Inlay.Config

/-- A tree and the place where it belongs. -/
structure Placed where
  place : Path
  tree : Tree

/-- The greatest distance from the ends of a list at which an item can be. -/
def farthest : Nat :=
  Nat.pow 2 24

/-- Whether a step leads to where a tree can be. -/
def Step.reachable : Step → Bool
  | .name _ => true
  | .index distance => distance.natAbs ≤ farthest

/-- Put trees at their places in turn. -/
def Tree.putAll (sources : List Placed) (tree : Tree) : Tree :=
  sources.foldl (fun tree placed => placed.tree.put placed.place tree) tree

/-- The tree assembled from the trees at their places. -/
def assemble (sources : List Placed) : Except Fault Tree :=
  if sources.all fun placed => placed.place.all Step.reachable then
    .ok (Tree.empty.putAll sources)
  else
    .error .unreachableIndex

end Inlay.Config
