import Inlay.Text.Basic

/-!
# Byte offsets

A text has a length in bytes as well, that of its UTF-8 encoding.  A byte
offset cuts a text only where a character begins or the text ends; every other
offset falls inside a character or behind the text, and there is no cut.
-/

namespace Inlay.Text

/-- Number of bytes of the UTF-8 encoding. -/
def byteLength : Text → Nat
  | [] => 0
  | c :: rest => c.utf8Size + byteLength rest

@[simp]
theorem byteLength_nil : byteLength [] = 0 :=
  rfl

@[simp]
theorem byteLength_cons (c : Char) (text : Text) :
    byteLength (c :: text) = c.utf8Size + byteLength text :=
  rfl

@[simp]
theorem byteLength_append (first second : Text) :
    byteLength (first ++ second) = byteLength first + byteLength second := by
  induction first with
  | nil => simp
  | cons c first ih => simp [ih, Nat.add_assoc]

/-- The two parts of a text before and behind a byte offset, if the offset is
a character boundary. -/
def splitAtByte? : Nat → Text → Option (Text × Text)
  | 0, text => some ([], text)
  | _ + 1, [] => none
  | offset + 1, c :: rest =>
      if c.utf8Size ≤ offset + 1 then
        (splitAtByte? (offset + 1 - c.utf8Size) rest).map fun parts => (c :: parts.1, parts.2)
      else
        none

@[simp]
theorem splitAtByte?_zero (text : Text) : splitAtByte? 0 text = some ([], text) := by
  cases text <;> rfl

@[simp]
theorem byteLength_eq_zero_iff {text : Text} : byteLength text = 0 ↔ text = [] := by
  cases text with
  | nil => simp
  | cons c rest =>
      have positive := c.utf8Size_pos
      simp
      omega

/-- A cut loses nothing, and its first part has as many bytes as the offset
says. -/
theorem splitAtByte?_eq_some_iff {offset : Nat} {text first second : Text} :
    splitAtByte? offset text = some (first, second) ↔
      text = first ++ second ∧ first.byteLength = offset := by
  induction text generalizing offset first with
  | nil =>
      cases offset with
      | zero => cases first <;> simp [eq_comm]
      | succ offset => cases first <;> simp [splitAtByte?]
  | cons c rest ih =>
      cases offset with
      | zero =>
          cases first with
          | nil => simp [eq_comm]
          | cons d first =>
              have positive := d.utf8Size_pos
              simp
              omega
      | succ offset =>
          have positive := c.utf8Size_pos
          cases first with
          | nil =>
              simp only [splitAtByte?]
              split <;> simp
          | cons d first =>
              simp only [splitAtByte?, byteLength_cons, List.cons_append, List.cons.injEq]
              split
              · rw [Option.map_eq_some_iff]
                constructor
                · rintro ⟨parts, cut, same⟩
                  obtain ⟨⟨rfl, rfl⟩, rfl⟩ := by simpa using same
                  obtain ⟨rfl, total⟩ := ih.1 cut
                  exact ⟨⟨rfl, rfl⟩, by omega⟩
                · rintro ⟨⟨rfl, rfl⟩, total⟩
                  exact ⟨(first, second), ih.2 ⟨rfl, by omega⟩, rfl⟩
              · simp only [reduceCtorEq, false_iff, not_and, and_imp]
                rintro rfl _
                omega

end Inlay.Text
