import Inlay.Config.Environment
import Inlay.Config.Toml.Document
import Inlay.Template.Basic

/-!
# Settings

Settings fix how templates are written, presented and built: the five
delimiters, the joiner and the scope.  Each has a key in one of two sections of a
configuration tree, and a default for when the key is missing.  A section is a
table, or a list of the values alone.

A setting is a text.  The tree is rejected as a whole if one of the sections is
neither table nor list or the value of a known key is no text.  Only then are the
texts checked: each delimiter has to be exactly one character, in the order of
`Delimiters.Role.all`, and after them the scope has to have a name.
-/

namespace Inlay

open Config

/-- How templates are written, presented and built. -/
structure Settings where
  delimiters : Delimiters := {}
  joiner : Text := []
  scope : Scope := .evaluator
  deriving DecidableEq

namespace Settings

/-! ## Keys -/

/-- What can be set. -/
inductive Key where
  | delimiter (role : Delimiters.Role)
  | joiner
  | scope
  deriving DecidableEq

namespace Key

/-- All keys. -/
def all : List Key :=
  Delimiters.Role.all.map delimiter ++ [joiner, scope]

/-- The name of the section of a key. -/
def category : Key → Text
  | delimiter _ => "grammar".toList
  | joiner => "composition".toList
  | scope => "composition".toList

/-- The name of a key in a section that is a table. -/
def name : Key → Text
  | delimiter role => role.key.toList
  | joiner => "joiner".toList
  | scope => "binding_scope".toList

/-- The index of a key in a section that is a list. -/
def index : Key → Nat
  | delimiter role => Delimiters.Role.all.idxOf role
  | joiner => 0
  | scope => 1

/-- The text of a setting whose key is missing. -/
def standard : Key → Text
  | delimiter role => [({} : Delimiters).get role]
  | joiner => []
  | scope => Scope.evaluator.word

@[simp]
theorem mem_all (key : Key) : key ∈ all := by
  cases key with
  | delimiter role => cases role <;> decide
  | joiner => decide
  | scope => decide

end Key

/-! ## Reading -/

/-- What a section has for a key, if it has anything. -/
def given (key : Key) : Tree → Except Fault (Option Tree)
  | .table entries => .ok (Entries.find? key.name entries)
  | .list items => .ok items[key.index]?
  | _ => .error .malformedSettings

/-- The text of a setting in a tree. -/
def text (tree : Tree) (key : Key) : Except Fault Text := do
  match ← given key ((tree.child? key.category).getD .empty) with
  | none => pure key.standard
  | some (.text content) => pure content
  | some _ => throw .malformedSettings

/-- The delimiter that a text stands for. -/
def single (role : Delimiters.Role) : Text → Except Fault Char
  | [c] => .ok c
  | value => .error (.notOneCharacter role value)

/-- The settings with the given texts. -/
def ofTexts (given : Key → Text) : Except Fault Settings := do
  let delimiter (role : Delimiters.Role) := single role (given (.delimiter role))
  let codeOpen ← delimiter .codeOpen
  let codeClose ← delimiter .codeClose
  let escape ← delimiter .escape
  let nameOpen ← delimiter .nameOpen
  let nameClose ← delimiter .nameClose
  let scope ← Scope.parse (given .scope)
  pure {
    delimiters := { codeOpen, codeClose, escape, nameOpen, nameClose }
    joiner := given .joiner
    scope }

/-- The settings in a tree. -/
def ofTree (tree : Tree) : Except Fault Settings := do
  Key.all.forM fun key => discard (text tree key)
  ofTexts fun key => (text tree key).toOption.getD key.standard

/-- The settings in trees that are laid over one another. -/
def ofSources (sources : List Placed) : Except Fault Settings :=
  assemble sources >>= ofTree

/-- The settings in a TOML document. -/
def ofToml (document : Text) : Except Fault Settings :=
  match Toml.settings? document with
  | some sources => ofSources sources
  | none => .error .malformedSettings

/-- The settings in a file that is a TOML document, if there is one, and in the
environment, which overrides it.  A byte order mark of the file is no part of
the document, which may have one itself. -/
def load (file : Option Text) (environment : Entries Text) : Except Fault Settings :=
  match Toml.settings? (Toml.dropMark (file.getD [])) with
  | some sources => ofSources (sources ++ Environment.settings environment)
  | none => .error .malformedSettings

/-! ## Using -/

/-- The template that a text stands for, presented and built as the settings
say. -/
def template (settings : Settings) (source : Text) : Except Fault Template := do
  let template ← Template.parse settings.delimiters source
  pure { template with joiner := settings.joiner, scope := settings.scope }

end Settings

end Inlay
