import Inlay.Proofs.Duration.Pieces

/-!
# Cutting from left to right

A text can be cut without looking for matches.  At each character, if a duration
literal begins there, the longest one is cut off as a whole; otherwise the
character is.  `Cuts` says just this, and there is but one way to cut a text.

The pieces of a text are what this gives, except that they keep copied
characters together.  Rewriting does not tell the difference, and neither do the
places at which a duration is rewritten.  So whatever is claimed of rewriting
can be shown by induction on the way a text is cut.
-/

namespace Inlay.Duration

/-! ## Cutting a text -/

/-- From left to right the text is cut into its longest literals and single
characters at which no literal begins. -/
inductive Cuts : Text → List Piece → Prop where
  | done : Cuts [] []
  | literal {parts : List Part} {written rest : Text} {later : List Piece}
      (longest : Longest parts written rest) (others : Cuts rest later) :
      Cuts (written ++ rest) (.duration written (ofParts parts) :: later)
  | copied {c : Char} {rest : Text} {later : List Piece}
      (none : ∀ parts written, Literal parts written → ¬ written <+: c :: rest)
      (others : Cuts rest later) :
      Cuts (c :: rest) (.copied [c] :: later)

/-- A copied text character by character. -/
def Piece.characters (text : Text) : List Piece :=
  text.map fun c => .copied [c]

namespace Cuts

variable {text rest : Text} {found later : List Piece}

/-- Blanks in front are copied. -/
theorem blanks {blanks : Text} (blank : Text.isBlank blanks = true) (others : Cuts rest later) :
    Cuts (blanks ++ rest) (Piece.characters blanks ++ later) := by
  induction blanks with
  | nil => exact others
  | cons c blanks ih =>
      rw [Text.isBlank_cons, Bool.and_eq_true] at blank
      apply copied _ (ih blank.2)
      intro parts written literal starts
      rcases List.exists_cons_of_ne_nil literal.text_ne_nil with ⟨d, tail, rfl⟩
      rcases List.cons_prefix_cons.1 starts with ⟨rfl, _⟩
      have visible := literal.leading_eq_nil
      simp [Text.leading, blank.1] at visible

/-- A text is cut in one way at most. -/
theorem unique {other : List Piece} (first : Cuts text found) (second : Cuts text other) :
    found = other := by
  induction first generalizing other with
  | done =>
      generalize empty : ([] : Text) = text at second
      cases second with
      | done => rfl
      | literal longest =>
          exact absurd (List.append_eq_nil_iff.mp empty.symm).1 longest.literal.text_ne_nil
      | copied => contradiction
  | @literal parts written rest later longest others ih =>
      generalize same : written ++ rest = text at second
      cases second with
      | done => exact absurd (List.append_eq_nil_iff.mp same).1 longest.literal.text_ne_nil
      | literal longest' others' =>
          rcases longest.unique longest' same with ⟨rfl, rfl, rfl⟩
          rw [ih others']
      | copied none => exact absurd ⟨rest, same⟩ (none parts written longest.literal)
  | @copied c rest later none others ih =>
      generalize same : c :: rest = text at second
      cases second with
      | done => contradiction
      | @literal parts written rest' _ longest =>
          exact absurd ⟨rest', same.symm⟩ (none parts written longest.literal)
      | copied none' others' =>
          rcases List.cons.inj same with ⟨rfl, rfl⟩
          rw [ih others']

/-- Nothing is lost by cutting. -/
theorem flatMap_source (cuts : Cuts text found) : found.flatMap Piece.source = text := by
  induction cuts with
  | done => rfl
  | literal _ _ ih => simp [Piece.source, ih]
  | copied _ _ ih => simp [Piece.source, ih]

end Cuts

/-! ## The pieces of a text -/

/-- The piece, with copied text character by character. -/
def Piece.split : Piece → List Piece
  | copied text => characters text
  | duration written value => [.duration written value]

/-- The pieces of a text, with copied text character by character. -/
def cut (text : Text) : List Piece :=
  (pieces text).flatMap Piece.split

theorem cut_of_consumed_ne_nil {text : Text} (some : (Match.front text).consumed ≠ []) :
    cut text =
      (Match.front text).pieces.flatMap Piece.split ++ cut (Match.front text).rest := by
  rw [cut, pieces_of_consumed_ne_nil some, List.flatMap_append, cut]

/-- The pieces of a text are what it is cut into. -/
theorem cuts_cut (text : Text) : Cuts text (cut text) := by
  induction text using text_induction with
  | nil => exact .done
  | copied c rest none ih =>
      rw [cut, pieces_of_consumed_eq_nil none]
      exact .copied (fun _ _ literal => Match.not_prefix_of_consumed_eq_nil none literal) ih
  | found text some ih =>
      have whole := Match.consumed_append_rest_front text
      rw [cut_of_consumed_ne_nil some]
      by_cases none : (Match.front text).parts = []
      · have blank := (Match.row_front text).isBlank_iff.mpr none
        have cuts := Cuts.blanks blank ih
        rw [whole] at cuts
        simpa [Match.pieces, none, Piece.split] using cuts
      · have lead : (Match.front text).lead.isBlank = true := Text.isBlank_leading _
        have trail : (Match.front text).trail.isBlank = true := Text.isBlank_trailing _
        have literal := Cuts.literal (Match.longest_front none) (Cuts.blanks trail ih)
        have cuts := Cuts.blanks lead literal
        rw [← Match.lead_append_written_append_trail] at whole
        simp only [List.append_assoc] at whole
        rw [whole] at cuts
        simpa [Match.pieces, none, Piece.split, Match.duration] using cuts

theorem cuts_iff {text : Text} {found : List Piece} : Cuts text found ↔ cut text = found := by
  constructor
  · intro cuts
    exact (cuts_cut text).unique cuts
  · rintro rfl
    exact cuts_cut text

/-! ## Rewriting what was cut -/

section Rewriting

variable {σ : Type} (replace : Duration → StateM σ Text)

theorem Piece.rewriteAll_characters (text : Text) (pieces : List Piece) (state : σ) :
    (rewriteAll replace (characters text ++ pieces)).run state =
      let behind := (rewriteAll replace pieces).run state
      (text ++ behind.1, behind.2) := by
  induction text with
  | nil => rfl
  | cons c text ih =>
      rw [characters, List.map_cons, List.cons_append, rewriteAll_copied, ← characters, ih]
      rfl

theorem Piece.rewriteAll_flatMap_split (pieces : List Piece) (state : σ) :
    (rewriteAll replace (pieces.flatMap split)).run state =
      (rewriteAll replace pieces).run state := by
  induction pieces generalizing state with
  | nil => rfl
  | cons piece pieces ih =>
      rw [List.flatMap_cons]
      cases piece with
      | copied text => rw [split, rewriteAll_characters, ih, rewriteAll_copied]
      | duration written value =>
          rw [split, List.singleton_append, rewriteAll_duration, rewriteAll_duration]
          simp only [ih]

theorem rewriteWith_eq_cut (text : Text) (state : σ) :
    (rewriteWith replace text).run state = (Piece.rewriteAll replace (cut text)).run state := by
  rw [rewriteWith_eq_rewriteAll, cut, Piece.rewriteAll_flatMap_split]

@[simp]
theorem Piece.filterMap_value?_characters (text : Text) :
    (characters text).filterMap value? = [] := by
  induction text with
  | nil => rfl
  | cons c text ih => exact ih

theorem durationsIn_eq_cut (text : Text) :
    durationsIn text = (cut text).filterMap Piece.value? := by
  rw [durationsIn, cut]
  induction pieces text with
  | nil => rfl
  | cons piece pieces ih =>
      rw [List.flatMap_cons, List.filterMap_append, ← ih]
      cases piece with
      | copied text => simp [Piece.split, Piece.value?, List.filterMap_cons]
      | duration written value => simp [Piece.split, Piece.value?]

end Rewriting

/-! ## Where durations are rewritten -/

/-- Among the pieces a written duration stands between two texts. -/
def Piece.Stands (pieces : List Piece) (before written behind : Text) : Prop :=
  ∃ front value back, pieces = front ++ .duration written value :: back ∧
    before = front.flatMap source ∧ behind = back.flatMap source

/-- When the text is rewritten, the written duration between the two texts is
replaced. -/
def Rewritten (text before written behind : Text) : Prop :=
  Piece.Stands (pieces text) before written behind

namespace Piece

variable {before written behind : Text} {pieces first second : List Piece}

@[simp]
theorem not_stands_nil : ¬ Stands [] before written behind := by
  rintro ⟨front, value, back, same, _⟩
  simp at same

theorem stands_copied_iff {text : Text} :
    Stands (.copied text :: pieces) before written behind ↔
      ∃ between, before = text ++ between ∧ Stands pieces between written behind := by
  constructor
  · rintro ⟨front, value, back, same, rfl, rfl⟩
    rcases List.cons_eq_append_iff.mp same with ⟨_, other⟩ | ⟨others, rfl, rest⟩
    · simp at other
    · exact ⟨_, rfl, others, value, back, rest, rfl, rfl⟩
  · rintro ⟨between, rfl, front, value, back, rfl, rfl, rfl⟩
    exact ⟨.copied text :: front, value, back, rfl, rfl, rfl⟩

theorem stands_duration_iff {here : Text} {value : Duration} :
    Stands (.duration here value :: pieces) before written behind ↔
      (before = [] ∧ written = here ∧ behind = pieces.flatMap source) ∨
        ∃ between, before = here ++ between ∧ Stands pieces between written behind := by
  constructor
  · rintro ⟨front, other, back, same, rfl, rfl⟩
    rcases List.cons_eq_append_iff.mp same with ⟨rfl, first⟩ | ⟨others, rfl, rest⟩
    · obtain ⟨⟨rfl, _⟩, rfl⟩ := by simpa using first
      exact .inl ⟨rfl, rfl, rfl⟩
    · exact .inr ⟨_, rfl, others, other, back, rest, rfl, rfl⟩
  · rintro (⟨rfl, rfl, rfl⟩ | ⟨between, rfl, front, other, back, rfl, rfl, rfl⟩)
    · exact ⟨[], value, pieces, rfl, rfl, rfl⟩
    · exact ⟨.duration here value :: front, other, back, rfl, rfl, rfl⟩

theorem stands_characters_iff {text : Text} :
    Stands (characters text ++ pieces) before written behind ↔
      ∃ between, before = text ++ between ∧ Stands pieces between written behind := by
  induction text generalizing before with
  | nil => simp [characters]
  | cons c text ih =>
      rw [characters, List.map_cons, List.cons_append, stands_copied_iff, ← characters]
      simp only [ih]
      constructor
      · rintro ⟨_, rfl, between, rfl, stands⟩
        exact ⟨between, rfl, stands⟩
      · rintro ⟨between, rfl, stands⟩
        exact ⟨_, rfl, between, rfl, stands⟩

theorem flatMap_source_split (pieces : List Piece) :
    (pieces.flatMap split).flatMap source = pieces.flatMap source := by
  induction pieces with
  | nil => rfl
  | cons piece pieces ih =>
      rw [List.flatMap_cons, List.flatMap_append, ih, List.flatMap_cons]
      cases piece with
      | copied text => simp [split, characters, source, List.flatMap_map]
      | duration written value => simp [split, source]

theorem stands_flatMap_split_iff :
    Stands (pieces.flatMap split) before written behind ↔
      Stands pieces before written behind := by
  induction pieces generalizing before with
  | nil => rfl
  | cons piece pieces ih =>
      rw [List.flatMap_cons]
      cases piece with
      | copied text => simp only [split, stands_characters_iff, stands_copied_iff, ih]
      | duration here value =>
          simp only [split, List.singleton_append, stands_duration_iff, flatMap_source_split, ih]

end Piece

theorem rewritten_iff {text before written behind : Text} :
    Rewritten text before written behind ↔ Piece.Stands (cut text) before written behind :=
  Piece.stands_flatMap_split_iff.symm

end Inlay.Duration
