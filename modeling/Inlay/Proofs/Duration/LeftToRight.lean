import Inlay.Proofs.Duration.Cutting

/-!
# Rewriting from left to right

Rewriting a text can be told without matches and pieces.  At each character,
if a duration literal begins there, the longest one is taken, its duration is
handed to the replacer, and rewriting goes on behind it; otherwise the
character is copied.  `Rewrites` says just this.  It determines what is written
and what the replacer is handed, and both are what `rewriteWith` makes of the
text.
-/

namespace Inlay.Duration

/-- The text is rewritten, from a state of the replacer: the durations it is
handed in order, what is written, and the state it is left in. -/
inductive Rewrites {σ : Type} (replace : Duration → StateM σ Text) :
    Text → σ → List Duration → Text → σ → Prop where
  | done (state : σ) : Rewrites replace [] state [] [] state
  | literal {parts : List Part} {written rest replaced out : Text}
      {durations : List Duration} {before between after : σ}
      (longest : Longest parts written rest)
      (new : (replace (ofParts parts)).run before = (replaced, between))
      (others : Rewrites replace rest between durations out after) :
      Rewrites replace (written ++ rest) before (ofParts parts :: durations) (replaced ++ out)
        after
  | copied {c : Char} {rest out : Text} {durations : List Duration} {before after : σ}
      (none : ∀ parts written, Literal parts written → ¬ written <+: c :: rest)
      (others : Rewrites replace rest before durations out after) :
      Rewrites replace (c :: rest) before durations (c :: out) after

/-! ## Rewriting along the way a text is cut -/

variable {σ : Type} {text : Text}

/-- What a text is cut into gives a way to rewrite it from left to right. -/
theorem Cuts.rewrites {found : List Piece} (cuts : Cuts text found)
    (replace : Duration → StateM σ Text) (state : σ) :
    Rewrites replace text state (found.filterMap Piece.value?)
      ((Piece.rewriteAll replace found).run state).1
      ((Piece.rewriteAll replace found).run state).2 := by
  induction cuts generalizing state with
  | done => exact .done state
  | literal longest _ ih =>
      rw [Piece.rewriteAll_duration]
      exact .literal longest rfl (ih _)
  | copied none _ ih =>
      rw [Piece.rewriteAll_copied]
      exact .copied none (ih state)

/-- Rewriting from left to right follows the way the text is cut. -/
theorem Rewrites.exists_cuts {replace : Duration → StateM σ Text} {out : Text}
    {durations : List Duration} {before after : σ}
    (rewrites : Rewrites replace text before durations out after) :
    ∃ found, Cuts text found ∧ found.filterMap Piece.value? = durations ∧
      (Piece.rewriteAll replace found).run before = (out, after) := by
  induction rewrites with
  | done state => exact ⟨[], .done, rfl, rfl⟩
  | literal longest new _ ih =>
      obtain ⟨found, cuts, rfl, run⟩ := ih
      refine ⟨_, .literal longest cuts, rfl, ?_⟩
      rw [Piece.rewriteAll_duration, new]
      simp only [run]
  | copied none _ ih =>
      obtain ⟨found, cuts, rfl, run⟩ := ih
      refine ⟨_, .copied none cuts, rfl, ?_⟩
      rw [Piece.rewriteAll_copied]
      simp only [run, List.singleton_append]

/-- Rewriting from left to right is what rewriting does, and hands the replacer
the same durations. -/
theorem rewrites_iff {replace : Duration → StateM σ Text} {out : Text}
    {durations : List Duration} {before after : σ} :
    Rewrites replace text before durations out after ↔
      (rewriteWith replace text).run before = (out, after) ∧
        handed replace text before = durations := by
  rw [rewriteWith_eq_cut, handed_eq, durationsIn_eq_cut]
  constructor
  · intro rewrites
    obtain ⟨found, cuts, durations, run⟩ := rewrites.exists_cuts
    rw [cuts_iff.mp cuts]
    exact ⟨run, durations⟩
  · rintro ⟨run, rfl⟩
    have rewrites := (cuts_cut text).rewrites replace before
    rwa [run] at rewrites

end Inlay.Duration
