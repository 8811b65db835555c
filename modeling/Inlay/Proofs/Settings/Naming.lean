import Inlay.Proofs.Text.Lowering
import Inlay.Scope

/-!
# Words for scopes

A text names a scope if it is the word for the scope once the blanks around it are
dropped and it is written in lower case.  That is the lower case of Unicode, but
both words are ASCII and have no k.  So only the case of ASCII letters is left
open, and no look-alike of a letter is taken for it.

Every other text is refused, and the fault quotes what was compared.
-/

namespace Inlay.Scope

open Text

variable {text : Text} {scope : Scope}

theorem word_build : build.word = ['b', 'u', 'i', 'l', 'd'] :=
  String.toList_ofList

theorem word_evaluator : evaluator.word = ['e', 'v', 'a', 'l', 'u', 'a', 't', 'o', 'r'] :=
  String.toList_ofList

theorem ascii_of_mem_word (scope : Scope) : ∀ c ∈ scope.word, Ascii c ∧ c ≠ 'k' := by
  cases scope with
  | build => simp [word_build, Ascii]
  | evaluator => simp [word_evaluator, Ascii]

theorem word_injective : Function.Injective word := by
  intro first second same
  cases first <;> cases second
  · rfl
  · simp [word_build, word_evaluator] at same
  · simp [word_build, word_evaluator] at same
  · rfl

theorem parse_of_lowercase_eq (named : text.trim.lowercase = scope.word) :
    parse text = .ok scope := by
  simp only [parse, named, word_injective.eq_iff]
  cases scope <;> rfl

theorem parse_of_lowercase_ne (unnamed : ∀ scope : Scope, text.trim.lowercase ≠ scope.word) :
    parse text = .error (.unknownScope text.trim.lowercase) := by
  rw [parse, if_neg (unnamed build), if_neg (unnamed evaluator)]

theorem parse_eq_ok_iff_lowercase : parse text = .ok scope ↔ text.trim.lowercase = scope.word := by
  constructor
  · intro accepted
    by_cases named : ∃ other : Scope, text.trim.lowercase = other.word
    · obtain ⟨other, named⟩ := named
      rw [parse_of_lowercase_eq named] at accepted
      cases accepted
      exact named
    · rw [parse_of_lowercase_ne (not_exists.mp named)] at accepted
      contradiction
  · exact parse_of_lowercase_eq

/-- What is not accepted is refused with what was compared. -/
theorem parse_of_refused (refused : ∀ scope, parse text ≠ .ok scope) :
    parse text = .error (.unknownScope text.trim.lowercase) :=
  parse_of_lowercase_ne fun scope named => refused scope (parse_of_lowercase_eq named)

/-- A text names a scope if what stands between its blanks is the word for the
scope, up to the case of ASCII letters. -/
theorem parse_eq_ok_iff : parse text = .ok scope ↔ text.trim.map Char.toLower = scope.word := by
  rw [parse_eq_ok_iff_lowercase, lowercase_eq_iff scope.ascii_of_mem_word]

theorem ascii_of_parse_eq_ok (named : parse text = .ok scope) : ∀ c ∈ text.trim, Ascii c := by
  apply ascii_of_map_toLower
  rw [parse_eq_ok_iff.mp named]
  exact fun c member => (scope.ascii_of_mem_word c member).1

/-- A text is accepted as a scope exactly if, between the blanks around it, it is
one of the two words up to the case of ASCII letters.  Every other text, and so
every text with a character beyond ASCII between the blanks, is refused, and the
fault quotes the text in lower case without the blanks. -/
theorem parse_accepts_two_words (text : Text) :
    (parse text = .ok build ↔ text.trim.map Char.toLower = "build".toList) ∧
    (parse text = .ok evaluator ↔ text.trim.map Char.toLower = "evaluator".toList) ∧
    (text.trim.map Char.toLower ≠ "build".toList ∧
        text.trim.map Char.toLower ≠ "evaluator".toList →
      parse text = .error (.unknownScope text.trim.lowercase)) ∧
    ((∃ c ∈ text.trim, 128 ≤ c.toNat) →
      parse text = .error (.unknownScope text.trim.lowercase)) ∧
    (Fault.unknownScope text.trim.lowercase).message =
      "Config error: unknown binding scope '" ++ String.ofList text.trim.lowercase ++ "'" := by
  refine ⟨parse_eq_ok_iff, parse_eq_ok_iff, ?_, ?_, rfl⟩
  · rintro ⟨notBuild, notEvaluator⟩
    apply parse_of_refused
    intro scope named
    rw [parse_eq_ok_iff] at named
    cases scope with
    | build => exact notBuild named
    | evaluator => exact notEvaluator named
  · rintro ⟨c, member, beyond⟩
    apply parse_of_refused
    intro scope named
    exact Nat.not_lt.mpr beyond (ascii_of_parse_eq_ok named c member)

/-- Blanks and capitals do not matter, but a dotted capital I is no I. -/
example : parse ['\u2003', 'B', 'u', 'I', 'l', 'D', '\n'] = .ok build ∧
    parse ['b', 'u', '\u0130', 'l', 'd'] =
      .error (.unknownScope ['b', 'u', 'i', '\u0307', 'l', 'd']) := by
  constructor <;> rfl

end Inlay.Scope
