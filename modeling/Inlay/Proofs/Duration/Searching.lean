import Inlay.Proofs.Duration.Pattern

/-!
# Where the search goes on

An empty match is one at which nothing is found.  Where a match ends and
nothing is found, the search goes on behind a character.  That happens at every
`s` by which a match is completed, so the search goes on behind the completed
match as well.  With this, every text has its matches.
-/

namespace Inlay.Duration

open Pattern (Captures Leftmost Scans)

/-! ## Behind a match -/

/-- An empty match means that nothing is found. -/
theorem consumed_eq_nil_of_empty {before text behind : Text} {captures : Captures TimeUnit}
    (found : Leftmost pattern (Text.byteLength before) text captures behind)
    (empty : captures.whole = ⟨Text.byteLength before, Text.byteLength before⟩) :
    (Match.initial text).consumed = [] := by
  obtain ⟨span, _, _⟩ := leftmost_pattern found
  have stops := congrArg Span.stop (span.symm.trans empty)
  simpa using stops

theorem empty_of_consumed_eq_nil {before text behind : Text} {captures : Captures TimeUnit}
    (none : (Match.initial text).consumed = [])
    (found : Leftmost pattern (Text.byteLength before) text captures behind) :
    captures.whole = ⟨Text.byteLength before, Text.byteLength before⟩ := by
  obtain ⟨span, _, _⟩ := leftmost_pattern found
  rw [span, none, List.append_nil]

/-- Where a match ends and nothing is found, the search goes on behind a
character. -/
theorem scans_true_cons_iff {before rest : Text} {c : Char} {later : List (Captures TimeUnit)}
    (nothing : (Match.initial (c :: rest)).consumed = []) :
    Scans pattern true (Text.byteLength before) (c :: rest) later ↔
      Scans pattern false (Text.byteLength (before ++ [c])) rest later := by
  obtain ⟨captures, behind, found⟩ := exists_leftmost_pattern before (c :: rest)
  have stop : Text.byteLength (before ++ [c]) = Text.byteLength before + c.utf8Size := by simp
  rw [stop]
  constructor
  · intro scans
    cases scans with
    | none none => exact absurd found (none captures behind)
    | found found counts => exact absurd (empty_of_consumed_eq_nil nothing found) (counts rfl)
    | passed _ _ others => exact others
  · exact .passed found (empty_of_consumed_eq_nil nothing found)

theorem scans_true_nil_iff {before : Text} {later : List (Captures TimeUnit)} :
    Scans pattern true (Text.byteLength before) [] later ↔ later = [] := by
  obtain ⟨captures, behind, found⟩ := exists_leftmost_pattern before []
  constructor
  · intro scans
    cases scans with
    | none => rfl
    | found found counts => exact absurd (empty_of_consumed_eq_nil rfl found) (counts rfl)
    | ended => rfl
  · rintro rfl
    exact .ended found (empty_of_consumed_eq_nil rfl found)

/-- Behind a match the search goes on behind what the completed match has
consumed: no match that counts begins with the `s` of milliseconds. -/
theorem exists_scans_iff_front (before text : Text) :
    ∃ ends, ∀ later, Scans pattern true
        (Text.byteLength (before ++ (Match.initial text).consumed)) (Match.initial text).rest
        later ↔
      Scans pattern ends (Text.byteLength (before ++ (Match.front text).consumed))
        (Match.front text).rest later := by
  rcases (Match.initial text).completed_cases with
    ⟨init, digits, rest, _, _, follows, completed⟩ | ⟨_, completed⟩
  · have nothing : (Match.initial ('s' :: rest)).consumed = [] := by
      rw [Match.initial_of_none (takePart?_cons_of_not_digit (by decide) rest),
        Match.ofUnits_cons_of_visible (by decide) (by decide)]
    refine ⟨false, fun later => ?_⟩
    rw [Match.front, completed, follows, scans_true_cons_iff nothing, List.append_assoc]
  · rw [Match.front, completed]
    exact ⟨true, fun _ => Iff.rfl⟩

/-! ## Every text has its matches -/

theorem exists_scans_of_consumed_eq_nil {before text : Text} {later : List (Captures TimeUnit)}
    (none : (Match.initial text).consumed = [])
    (scans : Scans pattern true (Text.byteLength before) text later) (ends : Bool) :
    ∃ all, Scans pattern ends (Text.byteLength before) text all := by
  cases ends with
  | true => exact ⟨later, scans⟩
  | false =>
      rcases exists_leftmost_pattern before text with ⟨captures, behind, found⟩
      rcases leftmost_pattern found with ⟨_, rfl, _⟩
      have covers := Match.consumed_append_rest_initial text
      rw [none, List.nil_append] at covers
      refine ⟨captures :: later, .found found (by simp) ?_⟩
      rwa [empty_of_consumed_eq_nil none found, covers]

theorem exists_scans (before text : Text) (ends : Bool) :
    ∃ later, Scans pattern ends (Text.byteLength before) text later := by
  induction text using text_induction generalizing before ends with
  | nil => exact exists_scans_of_consumed_eq_nil rfl (scans_true_nil_iff.mpr rfl) ends
  | copied c rest none ih =>
      have nothing := Match.consumed_initial_eq_nil_iff.mpr none
      rcases ih (before ++ [c]) false with ⟨later, others⟩
      exact exists_scans_of_consumed_eq_nil nothing ((scans_true_cons_iff nothing).mpr others) ends
  | found text some ih =>
      rcases exists_leftmost_pattern before text with ⟨captures, behind, found⟩
      rcases leftmost_pattern found with ⟨span, rfl, _⟩
      rcases exists_scans_iff_front before text with ⟨goesOn, scans⟩
      rcases ih (before ++ (Match.front text).consumed) goesOn with ⟨later, others⟩
      refine ⟨captures :: later, .found found (fun _ empty => some ?_) ?_⟩
      · exact Match.consumed_initial_eq_nil_iff.mp (consumed_eq_nil_of_empty found empty)
      · rw [span]
        exact (scans later).2 others

end Inlay.Duration
