import Inlay.Text.Lowercase

/-!
# ASCII texts in lower case

Writing a text in lower case maps every character of Unicode, but on ASCII texts
it does nothing except to the capital letters.  The other direction is what
comparing with a word needs: a text whose lower case is ASCII was ASCII itself.
There is one exception.  The Kelvin sign, which looks like a K, becomes a small k.

Both directions are read off the table of runs, whose images are ASCII in two
runs only, the capital letters and the Kelvin sign.  The two characters that the
table leaves out, a capital sigma and a capital I with a dot, leave a character
that is not ASCII.
-/

namespace Inlay.Text

/-- The characters of ASCII. -/
def Ascii (c : Char) : Prop :=
  c.toNat < 128

namespace Lowercase

/-! ## The table -/

/-- The images of the runs are scalar values. -/
theorem valid_image : ∀ run ∈ runs,
    run.image + (run.last - run.first) < 0xD800 ∨
      0xDFFF < run.image ∧ run.image + (run.last - run.first) < 0x110000 := by
  decide +kernel

/-- Beyond ASCII, the image of the Kelvin sign is the only one in ASCII. -/
theorem image_of_beyond : ∀ run ∈ runs,
    128 ≤ run.image ∨ run.last < 128 ∨ run.first = 0x212A ∧ run.last = 0x212A := by
  decide +kernel

/-- The lower case of a code point lies on a run, or is the code point. -/
theorem lowerCode_cases (code : Nat) :
    (∃ run ∈ runs, run.first ≤ code ∧ code ≤ run.last ∧
      lowerCode code = run.image + (code - run.first)) ∨
    lowerCode code = code := by
  rw [lowerCode]
  cases found : runs.find? (·.covers code) with
  | none => exact .inr rfl
  | some run =>
      have covered := List.find?_some found
      simp only [Run.covers, Bool.and_eq_true, decide_eq_true_eq] at covered
      exact .inl ⟨run, List.mem_of_find?_eq_some found, covered.1.1, covered.1.2, rfl⟩

theorem le_lowerCode {code : Nat} (beyond : 128 ≤ code) (other : code ≠ 0x212A) :
    128 ≤ lowerCode code := by
  rcases lowerCode_cases code with ⟨run, member, first, last, image⟩ | same
  · rcases image_of_beyond run member with wide | short | ⟨kelvin, kelvinToo⟩
    · omega
    · omega
    · omega
  · omega

theorem toNat_ofNat_lowerCode (c : Char) :
    (Char.ofNat (lowerCode c.toNat)).toNat = lowerCode c.toNat := by
  have valid : (lowerCode c.toNat).isValidChar := by
    rcases lowerCode_cases c.toNat with ⟨run, member, first, last, image⟩ | same
    · have images := valid_image run member
      simp only [Nat.isValidChar]
      omega
    · rw [same]
      exact c.valid
  rw [Char.ofNat, dif_pos valid]
  rfl

/-! ## Characters -/

theorem lowerChar_of_ascii {c : Char} (ascii : Ascii c) : lowerChar c = [c.toLower] := by
  have all : ∀ code < 128, lowerChar (Char.ofNat code) = [(Char.ofNat code).toLower] := by
    decide +kernel
  have here := all c.toNat ascii
  rwa [Char.ofNat_toNat] at here

/-- A character that is not ASCII leaves one that is not ASCII, or a small k. -/
theorem exists_mem_lowerChar {c : Char} (beyond : ¬Ascii c) :
    ∃ d ∈ lowerChar c, Ascii d → d = 'k' := by
  rw [lowerChar]
  by_cases dotted : c = '\u0130'
  · exact ⟨'\u0307', by simp [dotted], by simp [Ascii]⟩
  · refine ⟨Char.ofNat (lowerCode c.toNat), by simp [dotted], ?_⟩
    by_cases kelvin : c.toNat = 0x212A
    · intro _
      rw [kelvin]
      decide +kernel
    · intro ascii
      rw [Ascii, toNat_ofNat_lowerCode] at ascii
      have wide := le_lowerCode (Nat.le_of_not_lt beyond) kelvin
      omega

theorem not_ascii_lowerSigma (before after : Text) : ¬Ascii (lowerSigma before after) := by
  rw [lowerSigma]
  split <;> simp [Ascii]

/-! ## Texts -/

theorem lowerAfter_of_ascii {text : Text} (ascii : ∀ c ∈ text, Ascii c) (before : Text) :
    lowerAfter before text = text.map Char.toLower := by
  induction text generalizing before with
  | nil => rfl
  | cons c text ih =>
      obtain ⟨here, later⟩ := List.forall_mem_cons.mp ascii
      have noSigma : c ≠ 'Σ' := by
        rintro rfl
        simp [Ascii] at here
      rw [lowerAfter, if_neg noSigma, lowerChar_of_ascii here, ih later]
      rfl

theorem exists_mem_lowerAfter {text : Text} {c : Char} (member : c ∈ text) (beyond : ¬Ascii c)
    (before : Text) : ∃ d ∈ lowerAfter before text, Ascii d → d = 'k' := by
  induction text generalizing before with
  | nil => contradiction
  | cons first text ih =>
      simp only [lowerAfter, List.mem_append]
      rcases List.mem_cons.mp member with rfl | later
      · split
        · exact ⟨_, .inl List.mem_cons_self, fun ascii => absurd ascii (not_ascii_lowerSigma _ _)⟩
        · obtain ⟨d, left, plain⟩ := exists_mem_lowerChar beyond
          exact ⟨d, .inl left, plain⟩
      · obtain ⟨d, left, plain⟩ := ih later (first :: before)
        exact ⟨d, .inr left, plain⟩

end Lowercase

open Lowercase

theorem toLower_of_not_ascii {c : Char} (beyond : ¬Ascii c) : c.toLower = c := by
  have noCapital : ¬('A'.val ≤ c.val ∧ c.val ≤ 'Z'.val) := by
    rintro ⟨_, upper⟩
    have small : c.toNat ≤ 'Z'.toNat := UInt32.le_iff_toNat_le.mp upper
    exact beyond (Nat.lt_of_le_of_lt small (by decide))
  exact dif_neg noCapital

theorem lowercase_of_ascii {text : Text} (ascii : ∀ c ∈ text, Ascii c) :
    lowercase text = text.map Char.toLower :=
  lowerAfter_of_ascii ascii []

theorem ascii_of_lowercase {text : Text} (plain : ∀ d ∈ lowercase text, Ascii d ∧ d ≠ 'k') :
    ∀ c ∈ text, Ascii c := by
  intro c member
  refine Classical.byContradiction fun beyond => ?_
  obtain ⟨d, left, kelvin⟩ := exists_mem_lowerAfter member beyond []
  exact (plain d left).2 (kelvin (plain d left).1)

theorem ascii_of_map_toLower {text : Text} (plain : ∀ d ∈ text.map Char.toLower, Ascii d) :
    ∀ c ∈ text, Ascii c := by
  intro c member
  refine Classical.byContradiction fun beyond => ?_
  have here := plain c.toLower (List.mem_map_of_mem member)
  rw [toLower_of_not_ascii beyond] at here
  exact beyond here

/-- An ASCII word without a k is the lower case of just the texts that are the
word up to the case of ASCII letters. -/
theorem lowercase_eq_iff {word : Text} (plain : ∀ d ∈ word, Ascii d ∧ d ≠ 'k') (text : Text) :
    lowercase text = word ↔ text.map Char.toLower = word := by
  constructor
  · rintro rfl
    exact (lowercase_of_ascii (ascii_of_lowercase plain)).symm
  · rintro rfl
    exact lowercase_of_ascii (ascii_of_map_toLower fun d member => (plain d member).1)

/-- The Kelvin sign is why there must not be a k. -/
example : lowercase ['\u212a', 'm'] = ['k', 'm'] := by decide +kernel

end Inlay.Text
