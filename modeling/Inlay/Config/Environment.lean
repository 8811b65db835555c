import Inlay.Config.Assembly
import Inlay.Config.Path
import Inlay.Text.Lowercase

/-!
# Environment variables

Variables override settings.  The name of such a variable begins with
`TESSERA__` in any mixture of cases; the rest of it, in lower case and with a
period in the place of each double underscore, is the key of the setting.  The
value is the text of the setting, as it is.
-/

namespace Inlay.Config.Environment

/-- What the names of all variables with settings begin with, in lower
case. -/
def marker : Text :=
  "tessera__".toList

/-- Write a period for each double underscore, from left to right. -/
def withPeriods : Text → Text
  | '_' :: '_' :: rest => '.' :: withPeriods rest
  | c :: rest => c :: withPeriods rest
  | [] => []

/-- The place of the setting that a variable is for, if it is for one. -/
def path? (name : Text) : Option Path :=
  (marker.isPrefixOf? name.lowercase).map fun rest => Path.ofKey (withPeriods rest)

/-- The settings of an environment at their places. -/
def settings (environment : Entries Text) : List Placed :=
  environment.filterMap fun (name, value) =>
    (path? name).map fun place => { place, tree := .text value }

end Inlay.Config.Environment
