import Inlay.Proofs.Duration.Captures

/-!
# Rewriting by byte offsets

A text can be rewritten from the matches of the pattern alone, which are pairs
of byte offsets.  One offset is kept: up to there the text has been written.
Each match adds what was passed over since, and the replacement between the
blanks that the match has around its parts; then the offset is where the match
ends, or one byte further when an `s` had to be added to it.

The laws below say what a step does when the offsets are the lengths of what
stands in front of them: then every slice is there.
-/

namespace Inlay.Duration

open Pattern (Captures)

variable {σ : Type} (replace : Duration → StateM σ Text) (source : Text)

/-- What is written for the matches that are left, when the text up to an
offset has been written.  There is no result when a slice is not between
character boundaries in order. -/
def rewriteByOffsets : List (Captures TimeUnit) → Nat → σ → Option (Text × σ)
  | [], last, state => do
      let tail ← source.slice? last source.byteLength
      some (tail, state)
  | found :: later, last, state =>
      if found.whole.start < last then
        rewriteByOffsets later last state
      else do
        let passed ← source.slice? last found.whole.start
        let literal ← source.slice? found.whole.start found.whole.stop
        if literal.trim.isEmpty then do
          let (behind, state) ← rewriteByOffsets later found.whole.stop state
          some (passed ++ (literal ++ behind), state)
        else do
          let (value, stop) ← valueAndStop? source found
          let leading := literal.byteLength - literal.trimStart.byteLength
          let trailing := leading + literal.trim.byteLength
          let lead ← literal.slice? 0 leading
          let replaced := (replace value).run state
          let trail ← literal.slice? trailing literal.byteLength
          let (behind, state) ← rewriteByOffsets later (max found.whole.stop stop) replaced.2
          some (passed ++ (lead ++ (replaced.1 ++ (trail ++ behind))), state)

variable {replace source} {done pending : Text} {found : Captures TimeUnit}
  {later : List (Captures TimeUnit)} (state : σ)

theorem rewriteByOffsets_nil (whole : source = done ++ pending) :
    rewriteByOffsets replace source [] (Text.byteLength done) state = some (pending, state) := by
  simp [rewriteByOffsets, Text.slice?_to_end whole]

/-- A match of blanks is copied. -/
theorem rewriteByOffsets_blanks {blanks rest : Text}
    (whole : source = done ++ (pending ++ (blanks ++ rest)))
    (span : found.whole =
      ⟨Text.byteLength (done ++ pending), Text.byteLength (done ++ pending ++ blanks)⟩)
    (blank : blanks.isBlank = true) :
    rewriteByOffsets replace source (found :: later) (Text.byteLength done) state =
      (rewriteByOffsets replace source later (Text.byteLength (done ++ pending ++ blanks))
        state).map fun behind => (pending ++ (blanks ++ behind.1), behind.2) := by
  have passed := Text.slice?_eq_some whole
  have literal : source.slice? (Text.byteLength (done ++ pending))
      (Text.byteLength (done ++ pending ++ blanks)) = some blanks :=
    Text.slice?_eq_some (whole.trans (List.append_assoc _ _ _).symm)
  have ordered : ¬ Text.byteLength (done ++ pending) < Text.byteLength done := by
    rw [Text.byteLength_append]
    omega
  have empty : blanks.trim = [] := Text.trim_eq_nil_iff.mpr blank
  simp only [rewriteByOffsets, span, if_neg ordered, passed, literal, empty, List.isEmpty_nil,
    Option.bind_eq_bind, Option.bind_some, if_true]
  cases rewriteByOffsets replace source later (Text.byteLength (done ++ pending ++ blanks)) state
    <;> rfl

/-- A match with parts is replaced, but for the blanks around the parts. -/
theorem rewriteByOffsets_literal {consumed rest : Text} {value : Duration} {stop : Nat}
    (whole : source = done ++ (pending ++ (consumed ++ rest)))
    (span : found.whole =
      ⟨Text.byteLength (done ++ pending), Text.byteLength (done ++ pending ++ consumed)⟩)
    (visible : consumed.isBlank = false)
    (read : valueAndStop? source found = some (value, stop))
    (further : Text.byteLength (done ++ pending ++ consumed) ≤ stop) :
    rewriteByOffsets replace source (found :: later) (Text.byteLength done) state =
      (rewriteByOffsets replace source later stop ((replace value).run state).2).map fun behind =>
        (pending ++ (consumed.leading ++ (((replace value).run state).1 ++
          (consumed.trimStart.trailing ++ behind.1))), behind.2) := by
  have passed := Text.slice?_eq_some whole
  have literal : source.slice? (Text.byteLength (done ++ pending))
      (Text.byteLength (done ++ pending ++ consumed)) = some consumed :=
    Text.slice?_eq_some (whole.trans (List.append_assoc _ _ _).symm)
  have ordered : ¬ Text.byteLength (done ++ pending) < Text.byteLength done := by
    rw [Text.byteLength_append]
    omega
  have nonempty : consumed.trim.isEmpty = false := by
    rw [List.isEmpty_eq_false_iff, Ne, Text.trim_eq_nil_iff, visible]
    exact Bool.false_ne_true
  have leading : consumed.byteLength - consumed.trimStart.byteLength =
      consumed.leading.byteLength := by
    have lengths := congrArg Text.byteLength (Text.leading_append_trimStart consumed)
    rw [Text.byteLength_append] at lengths
    omega
  have inside := (Text.leading_append_trim_append consumed).symm
  have lead : consumed.slice? 0 consumed.leading.byteLength = some consumed.leading := by
    have front : consumed =
        [] ++ (consumed.leading ++ (consumed.trim ++ consumed.trimStart.trailing)) := inside
    exact Text.slice?_eq_some front
  have trail : consumed.slice? (consumed.leading.byteLength + consumed.trim.byteLength)
      consumed.byteLength = some consumed.trimStart.trailing := by
    rw [← Text.byteLength_append]
    exact Text.slice?_to_end (inside.trans (List.append_assoc _ _ _).symm)
  simp only [rewriteByOffsets, span, if_neg ordered, passed, literal, nonempty, read, leading,
    lead, trail, Nat.max_eq_right further, Option.bind_eq_bind, Option.bind_some,
    Bool.false_eq_true, if_false]
  cases rewriteByOffsets replace source later stop ((replace value).run state).2 <;> rfl

end Inlay.Duration
