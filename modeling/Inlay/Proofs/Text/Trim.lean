import Inlay.Text.Basic
import Mathlib.Data.List.TakeWhile

/-!
# Blanks at the ends of a text

The blanks in front of a text are the longest row of blanks there, and so are
those at its end.  Blanks put in front of a text are added to its leading ones;
the trailing ones do not change as long as the text itself is not blank.
-/

namespace Inlay.Text

variable {blanks text : Text}

@[simp]
theorem isBlank_append (first second : Text) :
    isBlank (first ++ second) = (isBlank first && isBlank second) := by
  simp [isBlank]

theorem isBlank_of_prefix {first : Text} (starts : first <+: text)
    (blank : isBlank text = true) : isBlank first = true := by
  rcases starts with ⟨rest, rfl⟩
  rw [isBlank_append, Bool.and_eq_true] at blank
  exact blank.1

/-! ## The front -/

@[simp]
theorem isBlank_leading (text : Text) : isBlank (leading text) = true := by
  simp only [isBlank, leading, List.all_eq_true]
  exact fun c found => List.mem_takeWhile_imp found

theorem leading_append (blank : isBlank blanks = true) (text : Text) :
    leading (blanks ++ text) = blanks ++ leading text := by
  rw [isBlank, List.all_eq_true] at blank
  exact List.takeWhile_append_of_pos blank

theorem trimStart_append (blank : isBlank blanks = true) (text : Text) :
    trimStart (blanks ++ text) = trimStart text := by
  rw [isBlank, List.all_eq_true] at blank
  exact List.dropWhile_append_of_pos blank

theorem trimStart_append_of_not_blank (visible : isBlank text = false) (rest : Text) :
    trimStart (text ++ rest) = trimStart text ++ rest := by
  have stops : text.dropWhile blank ≠ [] := by
    intro none
    rw [List.dropWhile_eq_nil_iff] at none
    rw [isBlank, List.all_eq_true.2 none] at visible
    exact Bool.false_ne_true visible.symm
  rw [trimStart, trimStart, List.dropWhile_append, if_neg (by simpa using stops)]

theorem leading_append_of_not_blank (visible : isBlank text = false) (rest : Text) :
    leading (text ++ rest) = leading text := by
  have whole := leading_append_trimStart (text ++ rest)
  rw [trimStart_append_of_not_blank visible, ← List.append_assoc] at whole
  have front := List.append_cancel_right whole
  exact List.append_cancel_right (front.trans (leading_append_trimStart text).symm)

theorem trimStart_eq_nil_iff : trimStart text = [] ↔ isBlank text = true := by
  simp [trimStart, isBlank]

/-- Nothing is dropped just where there is no blank in front. -/
theorem leading_eq_nil_iff : leading text = [] ↔ trimStart text = text := by
  have whole := leading_append_trimStart text
  constructor
  · intro none
    simpa [none] using whole
  · intro same
    simpa [same] using whole

@[simp]
theorem leading_trimStart (text : Text) : leading (trimStart text) = [] := by
  cases found : trimStart text with
  | nil => rfl
  | cons c rest =>
      have visible : ¬ blank c = true := by
        have first := List.head?_dropWhile_not blank text
        rw [← trimStart, found] at first
        simpa using first
      simp [leading, visible]

@[simp]
theorem trimStart_trimStart (text : Text) : trimStart (trimStart text) = trimStart text :=
  leading_eq_nil_iff.mp (leading_trimStart text)

theorem leading_cons_of_not_blank {c : Char} (visible : blank c = false) (text : Text) :
    leading (c :: text) = [] := by
  simp [leading, visible]

/-- A text that begins without a blank goes on beginning so. -/
theorem leading_append_of_ne_nil (visible : leading text = []) (some : text ≠ [])
    (rest : Text) : leading (text ++ rest) = [] := by
  cases text with
  | nil => exact absurd rfl some
  | cons c text =>
      have first : blank c = false := by simpa [leading] using visible
      exact leading_cons_of_not_blank first (text ++ rest)

/-- What a text begins with has no more blanks in front than the text. -/
theorem leading_eq_nil_of_append {rest : Text} (visible : leading (text ++ rest) = []) :
    leading text = [] := by
  cases text with
  | nil => rfl
  | cons c text =>
      have first : blank c = false := by simpa [leading] using visible
      exact leading_cons_of_not_blank first text

/-! ## The end -/

theorem trailing_eq_reverse_leading (text : Text) :
    trailing text = (leading text.reverse).reverse :=
  rfl

theorem isBlank_reverse (text : Text) : isBlank text.reverse = isBlank text := by
  simp [isBlank]

@[simp]
theorem isBlank_trailing (text : Text) : isBlank (trailing text) = true := by
  rw [trailing_eq_reverse_leading, isBlank_reverse, isBlank_leading]

/-- Nothing in front of a text that is not blank touches its trailing blanks. -/
theorem trailing_append_of_not_blank (first : Text) (visible : isBlank text = false) :
    trailing (first ++ text) = trailing text := by
  have stops : ¬ (text.reverse.takeWhile blank).length = text.reverse.length := by
    intro all
    have blanks := List.takeWhile_eq_self_iff.mp
      ((List.takeWhile_prefix blank).eq_of_length all)
    have blankReverse : isBlank text.reverse = true := List.all_eq_true.2 blanks
    rw [isBlank_reverse, visible] at blankReverse
    exact Bool.false_ne_true blankReverse
  rw [trailing, trailing, List.reverse_append, List.takeWhile_append, if_neg stops]

/-- The blanks in front are not those at the end. -/
theorem trailing_trimStart (visible : isBlank text = false) :
    trailing (trimStart text) = trailing text := by
  have rest : isBlank (trimStart text) = false := by
    have whole := congrArg isBlank (leading_append_trimStart text)
    rw [isBlank_append, isBlank_leading, Bool.true_and] at whole
    exact whole.trans visible
  calc
    trailing (trimStart text) = trailing (leading text ++ trimStart text) :=
      (trailing_append_of_not_blank _ rest).symm
    _ = trailing text := by rw [leading_append_trimStart]

/-- Blanks put behind a text are added to its trailing ones. -/
theorem trailing_append_of_isBlank (text : Text) (blank : isBlank blanks = true) :
    trailing (text ++ blanks) = trailing text ++ blanks := by
  rw [trailing_eq_reverse_leading, List.reverse_append,
    leading_append (by rwa [isBlank_reverse]), List.reverse_append, List.reverse_reverse]
  rfl

/-- Nothing is dropped just where there is no blank at the end. -/
theorem trailing_eq_nil_iff : trailing text = [] ↔ trimEnd text = text := by
  have whole := trimEnd_append_trailing text
  constructor
  · intro none
    simpa [none] using whole
  · intro same
    simpa [same] using whole

theorem trimEnd_append_of_not_blank (first : Text) (visible : isBlank text = false) :
    trimEnd (first ++ text) = first ++ trimEnd text := by
  have whole := trimEnd_append_trailing (first ++ text)
  rw [trailing_append_of_not_blank first visible] at whole
  refine List.append_cancel_right (?_ : _ ++ trailing text = _)
  rw [whole, List.append_assoc, trimEnd_append_trailing]

theorem trimEnd_append_of_isBlank (text : Text) (blank : isBlank blanks = true) :
    trimEnd (text ++ blanks) = trimEnd text := by
  have whole := trimEnd_append_trailing (text ++ blanks)
  rw [trailing_append_of_isBlank text blank, ← List.append_assoc] at whole
  have whole' := List.append_cancel_right whole
  exact List.append_cancel_right (whole'.trans (trimEnd_append_trailing text).symm)

/-- Trimming leaves no blank at either end. -/
@[simp]
theorem leading_trim (text : Text) : leading (trim text) = [] := by
  have visible := leading_trimStart text
  rw [← trimEnd_append_trailing (trimStart text)] at visible
  exact leading_eq_nil_of_append visible

@[simp]
theorem trailing_trim (text : Text) : trailing (trim text) = [] := by
  rw [trailing_eq_reverse_leading, trim, trimEnd, List.reverse_reverse]
  exact congrArg List.reverse (leading_trimStart (trimStart text).reverse)

/-- A text is what trimming leaves and the blanks around it. -/
theorem leading_append_trim_append (text : Text) :
    leading text ++ (trim text ++ trailing (trimStart text)) = text := by
  rw [trim, trimEnd_append_trailing, leading_append_trimStart]

/-- Nothing is left of blanks, and of nothing else. -/
theorem trim_eq_nil_iff : trim text = [] ↔ isBlank text = true := by
  constructor
  · intro none
    rw [← leading_append_trim_append text, none]
    simp
  · intro blank
    rw [trim, trimStart_eq_nil_iff.mpr blank]
    rfl

end Inlay.Text
