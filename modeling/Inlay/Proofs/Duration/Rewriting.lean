import Inlay.Proofs.Duration.LeftToRight
import Inlay.Proofs.Duration.Offsets
import Inlay.Proofs.Duration.Searching

/-!
# Rewriting by offsets is rewriting

Wherever the search for matches goes on, rewriting by offsets resumes: with
some text written and some passed over, it writes what was passed over and
then what rewriting makes of the rest.  Every slice on the way is between
character boundaries of the text, in order, whatever the text is; and no
character is lost or written twice.

So rewriting by offsets gives a result, and it is that of rewriting piece by
piece, and of rewriting the longest literals from left to right.
-/

namespace Inlay.Duration

open Pattern (Captures Leftmost Prefers Scans)

/-! ## Going through the matches -/

variable {σ : Type} {replace : Duration → StateM σ Text}

/-- From a text on, with some characters passed over, rewriting by offsets
writes these characters and then rewrites the text.  `ends` says that a match
ends there; then nothing has been passed over. -/
def Resumes (replace : Duration → StateM σ Text) (ends : Bool) (text : Text) : Prop :=
  ∀ (done pending : Text) (later : List (Captures TimeUnit)) (state : σ),
    (ends = true → pending = []) →
    Scans pattern ends (Text.byteLength (done ++ pending)) text later →
    rewriteByOffsets replace (done ++ (pending ++ text)) later (Text.byteLength done) state =
      some (pending ++ ((rewriteWith replace text).run state).1,
        ((rewriteWith replace text).run state).2)

/-- It is enough to look at the first match where that counts. -/
theorem Resumes.of_counted {ends : Bool} {text : Text}
    (counts : ends = true → (Match.initial text).consumed ≠ [])
    (counted : ∀ (done pending behind : Text) (captures : Captures TimeUnit)
      (later : List (Captures TimeUnit)) (state : σ),
      Leftmost pattern (Text.byteLength (done ++ pending)) text captures behind →
      Scans pattern true captures.whole.stop behind later →
      rewriteByOffsets replace (done ++ (pending ++ text)) (captures :: later)
          (Text.byteLength done) state =
        some (pending ++ ((rewriteWith replace text).run state).1,
          ((rewriteWith replace text).run state).2)) :
    Resumes replace ends text := by
  intro done pending later state _ scans
  cases scans with
  | none none =>
      rcases exists_leftmost_pattern (done ++ pending) text with ⟨captures, behind, found⟩
      exact absurd found (none captures behind)
  | found found _ others => exact counted _ _ _ _ _ _ found others
  | passed found empty => exact absurd (consumed_eq_nil_of_empty found empty) (counts rfl)
  | ended found empty => exact absurd (consumed_eq_nil_of_empty found empty) (counts rfl)

/-- Where nothing is found, an empty match comes first unless one ends there. -/
theorem Resumes.of_consumed_eq_nil {text : Text} (none : (Match.initial text).consumed = [])
    (resumes : Resumes replace true text) (ends : Bool) : Resumes replace ends text := by
  cases ends with
  | true => exact resumes
  | false =>
      refine .of_counted (by simp) fun done pending behind captures later state found others => ?_
      rcases leftmost_pattern found with ⟨span, rfl, _⟩
      have covers := Match.consumed_append_rest_initial text
      rw [none, List.nil_append] at covers
      rw [none] at span
      rw [covers, span] at others
      have whole : done ++ (pending ++ text) = done ++ (pending ++ ([] ++ text)) := rfl
      have resumed := resumes (done ++ pending) [] later state (fun _ => rfl)
        (by simpa using others)
      rw [rewriteByOffsets_blanks state whole span rfl]
      simp only [List.append_nil, List.nil_append, List.append_assoc] at resumed ⊢
      rw [resumed]
      rfl

section Found

variable {text done pending behind : Text} {captures : Captures TimeUnit}
  {later : List (Captures TimeUnit)}

/-- Rewriting resumes behind what the completed match has consumed. -/
theorem Resumes.behind_front (resumes : ∀ ends, Resumes replace ends (Match.front text).rest)
    (others : Scans pattern true
      (Text.byteLength (done ++ pending ++ (Match.initial text).consumed))
      (Match.initial text).rest later) (state : σ) :
    rewriteByOffsets replace (done ++ (pending ++ text)) later
        (Text.byteLength (done ++ pending ++ (Match.front text).consumed)) state =
      some ((rewriteWith replace (Match.front text).rest).run state) := by
  obtain ⟨ends, goesOn⟩ := exists_scans_iff_front (done ++ pending) text
  rw [goesOn] at others
  have next := resumes ends (done ++ pending ++ (Match.front text).consumed) [] later state
    (fun _ => rfl) (by simpa using others)
  rw [List.nil_append, List.append_assoc _ _ (Match.front text).rest,
    Match.consumed_append_rest_front, List.append_assoc] at next
  exact next

/-- A match of blanks is copied. -/
theorem rewriteByOffsets_of_parts_eq_nil (visible : (Match.front text).consumed ≠ [])
    (none : (Match.front text).parts = [])
    (resumes : ∀ ends, Resumes replace ends (Match.front text).rest) (state : σ)
    (found : Leftmost pattern (Text.byteLength (done ++ pending)) text captures behind)
    (others : Scans pattern true captures.whole.stop behind later) :
    rewriteByOffsets replace (done ++ (pending ++ text)) (captures :: later)
        (Text.byteLength done) state =
      some (pending ++ ((rewriteWith replace text).run state).1,
        ((rewriteWith replace text).run state).2) := by
  obtain ⟨span, rfl, _⟩ := leftmost_pattern found
  rw [span] at others
  have resumed := Resumes.behind_front resumes others state
  have same : Match.initial text = Match.front text :=
    (Match.completed_of_parts_eq_nil (Match.parts_initial_eq_nil_iff.mpr none)).symm
  rw [same] at span
  have whole : done ++ (pending ++ text) =
      done ++ (pending ++ ((Match.front text).consumed ++ (Match.front text).rest)) := by
    rw [Match.consumed_append_rest_front]
  have blank := (Match.row_front text).isBlank_iff.mpr none
  rw [rewriteByOffsets_blanks state whole span blank, resumed,
    rewriteWith_of_parts_eq_nil state visible none]
  rfl

/-- A match with parts is replaced. -/
theorem rewriteByOffsets_of_parts_ne_nil (parts : (Match.front text).parts ≠ [])
    (resumes : ∀ ends, Resumes replace ends (Match.front text).rest) (state : σ)
    (found : Leftmost pattern (Text.byteLength (done ++ pending)) text captures behind)
    (others : Scans pattern true captures.whole.stop behind later) :
    rewriteByOffsets replace (done ++ (pending ++ text)) (captures :: later)
        (Text.byteLength done) state =
      some (pending ++ ((rewriteWith replace text).run state).1,
        ((rewriteWith replace text).run state).2) := by
  obtain ⟨span, rfl, marks⟩ := leftmost_pattern found
  rw [span] at others
  have resumed := Resumes.behind_front resumes others
    ((replace (Match.front text).duration).run state).2
  have whole : done ++ (pending ++ text) =
      done ++ (pending ++ ((Match.initial text).consumed ++ (Match.initial text).rest)) := by
    rw [Match.consumed_append_rest_initial]
  have visible := (Match.row_initial text).isBlank_eq_false_iff.mpr
    (mt Match.parts_initial_eq_nil_iff.mp parts)
  rw [List.append_assoc] at marks
  have read : valueAndStop? (done ++ (pending ++ text)) captures =
      some ((Match.front text).duration,
        Text.byteLength (done ++ pending ++ (Match.front text).consumed)) :=
    valueAndStop?_eq_some (Match.row_initial text) (whole.trans (List.append_assoc _ _ _).symm)
      (congrArg Span.stop span) marks
  have further : Text.byteLength (done ++ pending ++ (Match.initial text).consumed) ≤
      Text.byteLength (done ++ pending ++ (Match.front text).consumed) := by
    obtain ⟨moved, consumed⟩ := Match.consumed_initial_prefix text
    rw [← consumed]
    simp only [Text.byteLength_append]
    omega
  obtain ⟨lead, trail⟩ := Match.blanks_initial text
  rw [rewriteByOffsets_literal state whole span visible read further, resumed,
    rewriteWith_of_parts_ne_nil state parts, ← lead, ← trail]
  rfl

end Found

/-- Rewriting by offsets resumes at every text. -/
theorem resumes (replace : Duration → StateM σ Text) (text : Text) (ends : Bool) :
    Resumes replace ends text := by
  induction text using text_induction generalizing ends with
  | nil =>
      refine .of_consumed_eq_nil rfl ?_ ends
      intro done pending later state empty scans
      obtain rfl := empty rfl
      obtain rfl := scans_true_nil_iff.mp scans
      exact rewriteByOffsets_nil state rfl
  | copied c rest none ih =>
      have nothing := Match.consumed_initial_eq_nil_iff.mpr none
      refine .of_consumed_eq_nil nothing ?_ ends
      intro done pending later state empty scans
      obtain rfl := empty rfl
      rw [List.append_nil, scans_true_cons_iff nothing] at scans
      have passed := ih false done [c] later state (by simp) scans
      rw [rewriteWith_of_consumed_eq_nil state none]
      exact passed
  | found text some ih =>
      refine .of_counted (fun _ nothing => some ?_) ?_
      · exact Match.consumed_initial_eq_nil_iff.mp nothing
      · intro done pending behind captures later state found others
        by_cases parts : (Match.front text).parts = []
        · exact rewriteByOffsets_of_parts_eq_nil some parts ih state found others
        · exact rewriteByOffsets_of_parts_ne_nil parts ih state found others

/-! ## Rewriting takes the longest literals -/

/-- Every text has its matches, and rewriting it by their offsets cuts it only
at character boundaries and gives what rewriting piece by piece does.  Both
take, from left to right, the longest literal at each character, hand its
duration to the replacer and write what that gives, and copy every other
character. -/
theorem rewriting_takes_longest_literals (replace : Duration → StateM σ Text) (text : Text) :
    (∃ captures, Scans pattern false 0 text captures) ∧
      (∀ captures before, Scans pattern false 0 text captures →
        rewriteByOffsets replace text captures 0 before =
          some ((rewriteWith replace text).run before)) ∧
      ∀ before durations out after, Rewrites replace text before durations out after ↔
        (rewriteWith replace text).run before = (out, after) ∧
          handed replace text before = durations := by
  refine ⟨?_, ?_, ?_⟩
  · exact exists_scans [] text false
  · intro captures before scans
    exact resumes replace text false [] [] captures before (fun _ => rfl) scans
  · intro before durations out after
    exact rewrites_iff

/-- Behind a character of two bytes, a short count of milliseconds: its match
takes in the blank and stops in front of the `s`. -/
theorem rewriting_takes_longest_literals_short_count :
    let text := ['é', ' ', '5', 'm', 's']
    let count := fun (value : Duration) (calls : Nat) => (value.digits, calls + 1)
    let nothing : TimeUnit → Option Span := fun _ => none
    let captures : List (Captures TimeUnit) :=
      [⟨⟨0, 0⟩, nothing⟩, ⟨⟨2, 5⟩, Function.update nothing .minute (some ⟨3, 4⟩)⟩,
        ⟨⟨6, 6⟩, nothing⟩]
    Scans pattern false 0 text captures ∧
      rewriteByOffsets count text captures 0 0 = some (['é', ' ', '5'], 1) ∧
      Rewrites count text 0 [⟨5⟩] ['é', ' ', '5'] 1 := by
  intro text count nothing captures
  have first : Prefers pattern ⟨0, text, nothing⟩ ⟨0, text, nothing⟩ := by
    simp [text, Prefers, pattern, rowPattern, TimeUnit.belowDay, TimeUnit.pattern, Pattern.ways,
      Pattern.runs, Text.blank]
  have second : Prefers pattern ⟨2, [' ', '5', 'm', 's'], nothing⟩
      ⟨5, ['s'], Function.update nothing .minute (some ⟨3, 4⟩)⟩ := by
    simp [Prefers, pattern, rowPattern, TimeUnit.belowDay, TimeUnit.pattern, Pattern.word,
      Pattern.upTo, Pattern.ways, Pattern.runs, TimeUnit.maxDigits, TimeUnit.letters,
      Pattern.Thread.record, Text.blank]
    exact ⟨rfl, rfl⟩
  have third : Prefers pattern ⟨5, ['s'], nothing⟩ ⟨5, ['s'], nothing⟩ := by
    simp [Prefers, pattern, rowPattern, TimeUnit.belowDay, TimeUnit.pattern, Pattern.ways,
      Pattern.runs, Text.blank]
  have fourth : Prefers pattern ⟨6, [], nothing⟩ ⟨6, [], nothing⟩ := by
    simp [Prefers, pattern, rowPattern, TimeUnit.belowDay, TimeUnit.pattern, Pattern.ways,
      Pattern.runs]
  have scans : Scans pattern false 0 text captures := by
    refine .found (.here first) (by simp) (.passed (.here first) rfl ?_)
    refine .found (.here second) (by simp) (.passed (.here third) rfl ?_)
    exact .found (.here fourth) (by simp) (.ended (.here fourth) rfl)
  have run : @Eq (Text × Nat) ((rewriteWith count text).run 0) (['é', ' ', '5'], 1) := by
    decide +kernel
  have durations : handed count text 0 = [⟨5⟩] := by decide +kernel
  obtain ⟨_, byOffsets, leftToRight⟩ := rewriting_takes_longest_literals count text
  refine ⟨scans, (byOffsets captures 0 scans).trans (congrArg some run), ?_⟩
  exact (leftToRight 0 _ _ _).2 ⟨run, durations⟩

end Inlay.Duration
