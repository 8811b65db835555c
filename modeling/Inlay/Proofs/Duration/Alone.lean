import Inlay.Proofs.Duration.Cutting
import Inlay.Proofs.Duration.Parsing

/-!
# One duration alone

Parsing trims a text and looks whether what is left is one literal.  Rewriting
trims nothing, finds literals one behind the other, and may find blanks on their
own.  The two agree: a text parses as a duration exactly if rewriting it replaces
this one duration and copies the blanks around it, and nothing else.
-/

namespace Inlay.Duration

variable {text : Text} {parts : List Part}

/-! ## Blanks around a literal -/

theorem parse?_eq_some_iff_literal {value : Duration} :
    parse? text = some value ↔ ∃ parts, Literal parts text.trim ∧ value = ofParts parts := by
  rw [parse?_eq_some_iff]
  constructor
  · rintro ⟨parts, form, some, same⟩
    exact ⟨parts, form.literal some, same⟩
  · rintro ⟨parts, literal, same⟩
    exact ⟨parts, literal.form, literal.parts_ne_nil, same⟩

theorem Literal.isBlank_eq_false (literal : Literal parts text) : text.isBlank = false :=
  literal.form.row.isBlank_eq_false_iff.mpr literal.parts_ne_nil

/-- Trimming takes the blanks around a literal away, and nothing else. -/
theorem Literal.trim_append (literal : Literal parts text) {lead trail : Text}
    (leadBlank : lead.isBlank = true) (trailBlank : trail.isBlank = true) :
    Text.trim (lead ++ (text ++ trail)) = text := by
  rw [Text.trim, Text.trimStart_append leadBlank,
    Text.trimStart_append_of_not_blank literal.isBlank_eq_false,
    Text.leading_eq_nil_iff.mp literal.leading_eq_nil, Text.trimEnd_append_of_isBlank _ trailBlank,
    Text.trailing_eq_nil_iff.mp literal.trailing_eq_nil]

/-- If a text is a literal without the blanks around it, then it is these blanks
and the literal. -/
theorem Literal.leading_append_append_trailing (literal : Literal parts text.trim) :
    text.leading ++ (text.trim ++ text.trailing) = text := by
  have visible : text.isBlank = false := by
    rw [Bool.eq_false_iff, Ne, ← Text.trim_eq_nil_iff]
    exact literal.text_ne_nil
  have whole := Text.leading_append_trim_append text
  rwa [Text.trailing_trimStart visible] at whole

/-! ## Cutting around a literal -/

/-- A literal with blanks around it is cut off, and the blanks are copied. -/
theorem Literal.cuts (literal : Literal parts text.trim) :
    Cuts text (Piece.characters text.leading ++
      .duration text.trim (ofParts parts) :: Piece.characters text.trailing) := by
  have longest : Longest parts text.trim text.trailing :=
    ⟨literal, fun other => other.length_le_of_blanks (Text.isBlank_trailing text)⟩
  have behind : Cuts text.trailing (Piece.characters text.trailing) := by
    simpa using Cuts.blanks (Text.isBlank_trailing text) .done
  have cuts := Cuts.blanks (Text.isBlank_leading text) (.literal longest behind)
  rwa [literal.leading_append_append_trailing] at cuts

namespace Cuts

variable {found : List Piece}

/-- A text in which no duration is found is copied. -/
theorem eq_characters (cuts : Cuts text found) (none : found.filterMap Piece.value? = []) :
    found = Piece.characters text := by
  induction cuts with
  | done => rfl
  | literal => simp [Piece.value?] at none
  | copied _ _ ih => rw [ih none, Piece.characters, Piece.characters, List.map_cons]

/-- If one duration is found, then there is one literal, and the text around it
is copied. -/
theorem eq_of_singleton {value : Duration} (cuts : Cuts text found)
    (one : found.filterMap Piece.value? = [value]) :
    ∃ parts lead written trail, Literal parts written ∧ value = ofParts parts ∧
      text = lead ++ (written ++ trail) ∧
      found = Piece.characters lead ++ .duration written value :: Piece.characters trail := by
  induction cuts with
  | done => simp at one
  | @literal parts written rest later longest others _ =>
      obtain ⟨rfl, none⟩ := List.cons.inj one
      exact ⟨parts, [], written, rest, longest.literal, rfl, rfl,
        by rw [others.eq_characters none]; rfl⟩
  | @copied c rest later _ _ ih =>
      obtain ⟨parts, lead, written, trail, literal, same, rfl, rfl⟩ := ih one
      exact ⟨parts, c :: lead, written, trail, literal, same, rfl, rfl⟩

end Cuts

/-- One duration among copied characters is replaced. -/
theorem Piece.rewriteAll_around {σ : Type} (replace : Duration → StateM σ Text)
    (lead written trail : Text) (value : Duration) (state : σ) :
    (rewriteAll replace (characters lead ++ .duration written value :: characters trail)).run
        state =
      let replaced := (replace value).run state
      (lead ++ (replaced.1 ++ trail), replaced.2) := by
  have behind (state : σ) : (rewriteAll replace (characters trail)).run state = (trail, state) := by
    simpa using rewriteAll_characters replace trail [] state
  rw [rewriteAll_characters, rewriteAll_duration]
  simp only [behind]

/-! ## Parsing and rewriting -/

/-- A text stands for a duration exactly if every replacer is handed this one
duration when the text is rewritten, and what it makes of it is put between the
blanks at the ends of the text. -/
theorem parses_iff_rewritten_alone (text : Text) (value : Duration) :
    parse? text = some value ↔
      ∀ (σ : Type) (replace : Duration → StateM σ Text) (state : σ),
        handed replace text state = [value] ∧
          (rewriteWith replace text).run state =
            let replaced := (replace value).run state
            (text.leading ++ (replaced.1 ++ text.trailing), replaced.2) := by
  rw [parse?_eq_some_iff_literal]
  constructor
  · rintro ⟨parts, literal, rfl⟩ σ replace state
    have pieces := cuts_iff.mp literal.cuts
    rw [handed_eq, durationsIn_eq_cut, rewriteWith_eq_cut, pieces]
    constructor
    · simp [Piece.value?]
    · exact Piece.rewriteAll_around replace _ _ _ _ state
  · intro agrees
    -- A replacer that writes nothing leaves only what is copied.
    obtain ⟨one, rewritten⟩ := agrees Unit (fun _ => pure []) ()
    rw [handed_eq, durationsIn_eq_cut] at one
    obtain ⟨parts, lead, written, trail, literal, rfl, whole, pieces⟩ :=
      (cuts_cut text).eq_of_singleton one
    rw [rewriteWith_eq_cut, pieces, Piece.rewriteAll_around] at rewritten
    have copied : lead ++ trail = text.leading ++ text.trailing := congrArg Prod.fst rewritten
    have blank : Text.isBlank (lead ++ trail) = true := by simp [copied]
    rw [Text.isBlank_append, Bool.and_eq_true] at blank
    refine ⟨parts, ?_, rfl⟩
    rw [whole, literal.trim_append blank.1 blank.2]
    exact literal

end Inlay.Duration
