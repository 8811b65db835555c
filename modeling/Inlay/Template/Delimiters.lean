/-!
# Delimiters

The five characters that a template is written with.  A fragment of code
stands between `codeOpen` and `codeClose`; its name, if it has one, stands
between `nameOpen` and `nameClose` directly behind it; and `escape` lets the
character behind it stand for itself in literal text.

Any five characters will do, and they need not be different: by default code
opens and closes with the same one.
-/

namespace Inlay

/-- The characters a template is written with. -/
structure Delimiters where
  codeOpen : Char := '\x60'
  codeClose : Char := '\x60'
  escape : Char := '\\'
  nameOpen : Char := '('
  nameClose : Char := ')'
  deriving DecidableEq, Inhabited

namespace Delimiters

/-- What a delimiter is for. -/
inductive Role where
  | codeOpen
  | codeClose
  | escape
  | nameOpen
  | nameClose
  deriving DecidableEq

/-- The delimiter with a given role. -/
def get (delimiters : Delimiters) : Role → Char
  | .codeOpen => delimiters.codeOpen
  | .codeClose => delimiters.codeClose
  | .escape => delimiters.escape
  | .nameOpen => delimiters.nameOpen
  | .nameClose => delimiters.nameClose

namespace Role

/-- The name by which settings refer to a delimiter. -/
def key : Role → String
  | .codeOpen => "code_open"
  | .codeClose => "code_close"
  | .escape => "escape"
  | .nameOpen => "binding_open"
  | .nameClose => "binding_close"

/-- All roles, in the order in which settings are checked. -/
def all : List Role :=
  [.codeOpen, .codeClose, .escape, .nameOpen, .nameClose]

@[simp]
theorem mem_all (role : Role) : role ∈ all := by
  cases role <;> decide

end Role

/-- Delimiters are determined by the character of every role. -/
theorem ext_get {first second : Delimiters}
    (sameGet : ∀ role, first.get role = second.get role) : first = second := by
  cases first
  cases second
  have codeOpen := sameGet .codeOpen
  have codeClose := sameGet .codeClose
  have escape := sameGet .escape
  have nameOpen := sameGet .nameOpen
  have nameClose := sameGet .nameClose
  simp only [get] at codeOpen codeClose escape nameOpen nameClose
  simp [codeOpen, codeClose, escape, nameOpen, nameClose]

end Delimiters

end Inlay
