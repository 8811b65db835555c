/-!
# Text

A text is the list of its characters (Unicode scalar values).  Every part of
the library that reads, cuts or rewrites text works on this representation, so
positions and lengths count characters; byte offsets are the business of
`Inlay.Text.Bytes`.

A character is *blank* when it has the Unicode property `White_Space`.
Trimming removes blank characters from the ends of a text and nothing else.
-/

namespace Inlay

/-- A text, character by character. -/
abbrev Text := List Char

namespace Text

/-- Blank characters are those with the Unicode property `White_Space`. -/
def blank (c : Char) : Bool :=
  let code := c.toNat
  (0x09 ≤ code && code ≤ 0x0D) || code == 0x20 || code == 0x85 || code == 0xA0 ||
    code == 0x1680 || (0x2000 ≤ code && code ≤ 0x200A) || code == 0x2028 || code == 0x2029 ||
    code == 0x202F || code == 0x205F || code == 0x3000

/-- A text is blank when it has no character that is not. -/
def isBlank (text : Text) : Bool :=
  text.all blank

/-- Drop the blank characters in front. -/
def trimStart (text : Text) : Text :=
  text.dropWhile blank

/-- Drop the blank characters at the end. -/
def trimEnd (text : Text) : Text :=
  (text.reverse.dropWhile blank).reverse

/-- The blank characters in front. -/
def leading (text : Text) : Text :=
  text.takeWhile blank

/-- The blank characters at the end. -/
def trailing (text : Text) : Text :=
  (text.reverse.takeWhile blank).reverse

/-- Drop the blank characters at both ends. -/
def trim (text : Text) : Text :=
  trimEnd (trimStart text)

@[simp]
theorem isBlank_nil : isBlank [] = true :=
  rfl

@[simp]
theorem isBlank_cons (c : Char) (text : Text) :
    isBlank (c :: text) = (blank c && isBlank text) :=
  rfl

@[simp]
theorem trim_nil : trim [] = [] :=
  rfl

/-- Trimming the start drops just the blanks in front. -/
@[simp]
theorem leading_append_trimStart (text : Text) : leading text ++ trimStart text = text :=
  List.takeWhile_append_dropWhile

/-- Trimming the end drops just the blanks at the end. -/
@[simp]
theorem trimEnd_append_trailing (text : Text) : trimEnd text ++ trailing text = text := by
  rw [trimEnd, trailing, ← List.reverse_append, List.takeWhile_append_dropWhile,
    List.reverse_reverse]

/-- The blank characters among the ASCII ones. -/
example : ((List.range 128).map Char.ofNat).filter blank =
    ['\t', '\n', '\x0b', '\x0c', '\r', ' '] := by decide

/-- Look-alikes without the property are not blank. -/
example : ['\u200b', '\ufeff', '\u180e'].any blank = false := by decide

end Text

end Inlay
