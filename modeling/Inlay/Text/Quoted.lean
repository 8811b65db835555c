import Inlay.Text.Printable

/-!
# Quoted text

The quoted form of a text stands between double quotes and shows every
character of the text: printable ones as they are, the quote and the backslash
behind a backslash, the common control characters by a letter or digit behind
a backslash, and all others by their code point in hexadecimal.
-/

namespace Inlay.Text

/-- A code point in hexadecimal, in small letters and without leading
zeros. -/
def hexadecimal (code : Nat) : Text :=
  Nat.toDigits 16 code

/-- How one character is shown between double quotes. -/
def quotedChar (c : Char) : Text :=
  match c with
  | '"' => ['\\', '"']
  | '\\' => ['\\', '\\']
  | '\n' => ['\\', 'n']
  | '\t' => ['\\', 't']
  | '\r' => ['\\', 'r']
  | '\x00' => ['\\', '0']
  | _ => if printable c then [c] else ['\\', 'u', '\x7b'] ++ hexadecimal c.toNat ++ ['\x7d']

/-- A text between double quotes. -/
def quoted (text : Text) : Text :=
  '"' :: text.flatMap quotedChar ++ ['"']

/-- A quote, an apostrophe, a tab and a combining accent. -/
example : quoted ['"', '\'', '\t', '\u0301'] =
    "\"\\\"'\\t\\u\x7b301\x7d\"".toList := by decide +kernel

end Inlay.Text
