import Inlay.Text.Cased
import Inlay.Text.Lowercase.Table

/-!
# Writing a text in lower case

The full lower-case mapping of Unicode.  Every character is mapped on its own,
with one exception: a capital sigma at the end of a word becomes the final
form of the letter.  It is at the end of a word when, leaving out
case-ignorable characters, a cased character comes in front of it and none
comes behind it.
-/

namespace Inlay.Text

namespace Lowercase

/-- The lower case of a code point. -/
def lowerCode (code : Nat) : Nat :=
  match runs.find? (·.covers code) with
  | some run => run.lower code
  | none => code

/-- The lower case of a character outside any word.  A capital I with a dot
above is a small i and a combining dot above. -/
def lowerChar (c : Char) : Text :=
  if c = '\u0130' then ['i', '\u0307'] else [Char.ofNat (lowerCode c.toNat)]

/-- Whether a cased character comes next, leaving out case-ignorable ones. -/
def meetsCased (text : Text) : Bool :=
  match text.dropWhile caseIgnorable with
  | [] => false
  | c :: _ => cased c

/-- The lower case of a capital sigma, given what stands in front of it,
nearest first, and behind it. -/
def lowerSigma (before after : Text) : Char :=
  if meetsCased before && !meetsCased after then 'ς' else 'σ'

/-- The lower case of the text that follows `before`, which is given nearest
character first. -/
def lowerAfter (before : Text) : Text → Text
  | [] => []
  | c :: after =>
      (if c = 'Σ' then [lowerSigma before after] else lowerChar c) ++
        lowerAfter (c :: before) after

end Lowercase

/-- A text in lower case. -/
def lowercase (text : Text) : Text :=
  Lowercase.lowerAfter [] text

@[simp]
theorem lowercase_nil : lowercase [] = [] :=
  rfl

/-- A sigma in the middle of a word, at its end, and on its own. -/
example : lowercase ['Α', 'Σ', 'Σ'] = ['α', 'σ', 'ς'] ∧ lowercase ['Σ'] = ['σ'] := by
  decide +kernel

end Inlay.Text
