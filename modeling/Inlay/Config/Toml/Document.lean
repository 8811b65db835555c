import Inlay.Config.Assembly
import Inlay.Config.Path
import Inlay.Config.Toml.Scalar

/-!
# TOML documents

A document is a sequence of statements, each on a line of its own: headers,
which open a table, and keys with their values, which belong to the table that
was opened last.  The values are scalars, arrays and inline tables.  Arrays and
inline tables may extend over several lines and have a comma behind the last
item; their depth is limited.
-/

namespace Inlay.Config.Toml

open Cursor

/-! ## Values -/

/-- Take an item of an array and the comma behind it, or nothing at the closing
bracket. -/
def readItem? (value : Scan Node) : Scan (Option Node) := do
  skipLines
  if (← peek) = some ']' then
    pure none
  else
    let item ← value
    skipLines
    if (← accept ',').isNone && (← peek) != some ']' then
      malformed
    pure (some item)

/-- Take the rest of an array. -/
def readArray (value : Scan Node) : Scan Node := do
  let items ← many (readItem? value)
  skipLines
  discard (expect ']')
  pure (.array items)

/-- Take a key, its value and the comma behind them, or nothing at the closing
brace. -/
def readPair? (value : Scan Node) : Scan (Option (Key × Node)) := do
  skipLines
  if (← peek) = some '}' then
    pure none
  else
    let key ← readKey
    skipLines
    discard (expect '=')
    skipLines
    let node ← value
    skipLines
    if (← accept ',').isNone && (← peek) != some '}' then
      malformed
    pure (some (key, node))

/-- Give keys their values in turn. -/
def assignAll (pairs : List (Key × Node)) (node : Node) : Option Node :=
  pairs.foldlM (fun node (key, value) => Node.assign key value node) node

/-- Take the rest of an inline table. -/
def readInlineTable (value : Scan Node) : Scan Node := do
  let pairs ← many (readPair? value)
  skipLines
  discard (expect '}')
  orMalformed (assignAll pairs (.table .inline []))

/-- Take a value with at most a number of arrays and inline tables inside one
another. -/
def readValueUpTo : Nat → Scan Node
  | 0 => readScalar
  | depth + 1 => do
      if (← accept '[').isSome then
        readArray (readValueUpTo depth)
      else if (← accept '{').isSome then
        readInlineTable (readValueUpTo depth)
      else
        readScalar

/-- How many arrays and inline tables may stand inside one another. -/
def depthLimit : Nat :=
  80

/-- Take a value. -/
def readValue : Scan Node :=
  readValueUpTo depthLimit

/-! ## Statements -/

/-- A line of a document. -/
inductive Statement where
  | openTable (key : Key)
  | appendTable (key : Key)
  | assign (key : Key) (value : Node)

/-- Take a key and its value on the same line. -/
def readAssignment : Scan (Key × Node) := do
  let key ← readKey
  discard (expect '=')
  skipSpace
  let node ← readValue
  pure (key, node)

/-- Take the rest of a header behind its opening brackets. -/
def readHeader (closing : Text) : Scan Key := do
  skipSpace
  let key ← readKey
  expectSequence closing
  pure key

/-- Take the next statement, if there is one. -/
def readStatement? : Scan (Option Statement) := do
  skipLines
  if (← peek).isNone then
    pure none
  else
    let statement ←
      if ← acceptSequence ['[', '['] then
        Statement.appendTable <$> readHeader [']', ']']
      else if (← accept '[').isSome then
        Statement.openTable <$> readHeader [']']
      else
        let (key, value) ← readAssignment
        pure (Statement.assign key value)
    endLine
    pure (some statement)

/-! ## Documents -/

/-- A document that is being assembled: its root table, and the names of the
table that was opened last. -/
structure Draft where
  root : Node := .table .header []
  current : List Text := []

/-- Add a statement to a document. -/
def Draft.extend (draft : Draft) : Statement → Option Draft
  | .openTable key => do
      let root ← draft.root.openTable key
      pure { root, current := key.names }
  | .appendTable key => do
      let root ← draft.root.appendTable key
      pure { root, current := key.names }
  | .assign key value => do
      let root ← draft.root.within false (Node.assign key value) draft.current
      pure { draft with root }

/-- A text without the byte order mark in front of it, if there is one. -/
def dropMark : Text → Text
  | '\ufeff' :: text => text
  | text => text

/-- The root table of a document.  A byte order mark in front is no part of
it. -/
def parse? (source : Text) : Option Node :=
  match many readStatement? (Cursor.start (dropMark source)) with
  | .ok statements _ => do
      let draft ← statements.foldlM Draft.extend {}
      pure draft.root
  | .error _ _ => none

/-- The settings of a document at their places.  The names of its root table are
written paths. -/
def settings? (source : Text) : Option (List Placed) := do
  let root ← parse? source
  pure (root.toTree.entries.map fun (name, tree) => { place := Path.ofKey name, tree })

end Inlay.Config.Toml
