import Inlay.Proofs.Duration.Front

/-!
# Rewriting piece by piece

The bound on the number of pieces has no bearing on them: a text has the pieces
at its front, and then those of the rest.

Rewriting goes through the pieces in order.  A replacer can be made to note
the durations it is handed beside its own state; the notes are the durations
of the pieces.
-/

namespace Inlay.Duration

/-! ## Pieces of the front and of the rest -/

theorem piecesUpTo_of_consumed_eq_nil {c : Char} {rest : Text}
    (none : (Match.front (c :: rest)).consumed = []) (limit : Nat) :
    piecesUpTo (limit + 1) (c :: rest) = .copied [c] :: piecesUpTo limit rest := by
  simp [piecesUpTo, none]

theorem piecesUpTo_of_consumed_ne_nil {text : Text} (some : (Match.front text).consumed ≠ [])
    (limit : Nat) :
    piecesUpTo (limit + 1) text =
      (Match.front text).pieces ++ piecesUpTo limit (Match.front text).rest := by
  cases text with
  | nil => exact absurd rfl some
  | cons c rest => simp [piecesUpTo, some]

/-- Every bound that is large enough gives the same pieces. -/
theorem piecesUpTo_eq_pieces {limit : Nat} {text : Text} (enough : text.length ≤ limit) :
    piecesUpTo limit text = pieces text := by
  suffices same : ∀ limit', text.length ≤ limit' →
      piecesUpTo limit text = piecesUpTo limit' text from same text.length (Nat.le_refl _)
  induction text using text_induction generalizing limit with
  | nil =>
      intro limit' _
      cases limit <;> cases limit' <;> rfl
  | copied c rest none ih =>
      intro limit' enough'
      rcases Nat.exists_eq_add_one_of_ne_zero (Nat.ne_zero_of_lt enough) with ⟨bound, rfl⟩
      rcases Nat.exists_eq_add_one_of_ne_zero (Nat.ne_zero_of_lt enough') with ⟨bound', rfl⟩
      rw [piecesUpTo_of_consumed_eq_nil none, piecesUpTo_of_consumed_eq_nil none,
        ih (Nat.le_of_succ_le_succ enough) bound' (Nat.le_of_succ_le_succ enough')]
  | found text some ih =>
      intro limit' enough'
      have shorter := length_rest_front_lt some
      obtain ⟨bound, rfl⟩ :=
        Nat.exists_eq_add_one_of_ne_zero (Nat.ne_zero_of_lt (shorter.trans_le enough))
      obtain ⟨bound', rfl⟩ :=
        Nat.exists_eq_add_one_of_ne_zero (Nat.ne_zero_of_lt (shorter.trans_le enough'))
      rw [piecesUpTo_of_consumed_ne_nil some, piecesUpTo_of_consumed_ne_nil some,
        ih (by omega) bound' (by omega)]

@[simp]
theorem pieces_nil : pieces [] = [] :=
  rfl

theorem pieces_of_consumed_eq_nil {c : Char} {rest : Text}
    (none : (Match.front (c :: rest)).consumed = []) :
    pieces (c :: rest) = .copied [c] :: pieces rest :=
  piecesUpTo_of_consumed_eq_nil none rest.length

theorem pieces_of_consumed_ne_nil {text : Text} (some : (Match.front text).consumed ≠ []) :
    pieces text = (Match.front text).pieces ++ pieces (Match.front text).rest := by
  have shorter := length_rest_front_lt some
  have bound := piecesUpTo_of_consumed_ne_nil some text.length
  rwa [piecesUpTo_eq_pieces (Nat.le_succ _), piecesUpTo_eq_pieces shorter.le] at bound

/-! ## Rewriting a row of pieces -/

section Rewriting

variable {σ : Type} (replace : Duration → StateM σ Text)

/-- The pieces in a row after rewriting. -/
def Piece.rewriteAll (pieces : List Piece) : StateM σ Text := do
  let rewritten ← pieces.mapM (Piece.rewriteWith replace)
  pure rewritten.flatten

@[simp]
theorem Piece.rewriteAll_nil (state : σ) : (rewriteAll replace []).run state = ([], state) :=
  rfl

@[simp]
theorem Piece.rewriteAll_copied (text : Text) (pieces : List Piece) (state : σ) :
    (rewriteAll replace (.copied text :: pieces)).run state =
      let behind := (rewriteAll replace pieces).run state
      (text ++ behind.1, behind.2) := by
  simp only [rewriteAll, List.mapM_cons, Piece.rewriteWith]
  rfl

@[simp]
theorem Piece.rewriteAll_duration (written : Text) (value : Duration) (pieces : List Piece)
    (state : σ) :
    (rewriteAll replace (.duration written value :: pieces)).run state =
      let replaced := (replace value).run state
      let behind := (rewriteAll replace pieces).run replaced.2
      (replaced.1 ++ behind.1, behind.2) := by
  simp only [rewriteAll, List.mapM_cons, Piece.rewriteWith]
  rfl

theorem rewriteWith_eq_rewriteAll (text : Text) :
    rewriteWith replace text = Piece.rewriteAll replace (pieces text) :=
  rfl

variable {replace} (state : σ)

@[simp]
theorem rewriteWith_nil : (rewriteWith replace []).run state = ([], state) :=
  rfl

/-- Where nothing is found, a character is copied. -/
theorem rewriteWith_of_consumed_eq_nil {c : Char} {rest : Text}
    (none : (Match.front (c :: rest)).consumed = []) :
    (rewriteWith replace (c :: rest)).run state =
      let behind := (rewriteWith replace rest).run state
      (c :: behind.1, behind.2) := by
  simp [rewriteWith_eq_rewriteAll, pieces_of_consumed_eq_nil none]

/-- Where only blanks are found, they are copied. -/
theorem rewriteWith_of_parts_eq_nil {text : Text} (some : (Match.front text).consumed ≠ [])
    (none : (Match.front text).parts = []) :
    (rewriteWith replace text).run state =
      let behind := (rewriteWith replace (Match.front text).rest).run state
      ((Match.front text).consumed ++ behind.1, behind.2) := by
  simp [rewriteWith_eq_rewriteAll, pieces_of_consumed_ne_nil some, Match.pieces, none]

theorem consumed_ne_nil_of_parts_ne_nil {text : Text} (some : (Match.front text).parts ≠ []) :
    (Match.front text).consumed ≠ [] := by
  intro none
  have visible := (Match.row_front text).isBlank_eq_false_iff.mpr some
  simp [none] at visible

/-- Where parts are found, they are replaced, and the blanks around them are
copied. -/
theorem rewriteWith_of_parts_ne_nil {text : Text} (some : (Match.front text).parts ≠ []) :
    (rewriteWith replace text).run state =
      let replaced := (replace (Match.front text).duration).run state
      let behind := (rewriteWith replace (Match.front text).rest).run replaced.2
      ((Match.front text).lead ++ (replaced.1 ++ ((Match.front text).trail ++ behind.1)),
        behind.2) := by
  simp [rewriteWith_eq_rewriteAll,
    pieces_of_consumed_ne_nil (consumed_ne_nil_of_parts_ne_nil some), Match.pieces, some]

end Rewriting

/-! ## Noting what is handed to the replacer -/

/-- The replacer that notes the durations it is handed beside its state. -/
def noting {σ : Type} (replace : Duration → StateM σ Text) :
    Duration → StateM (σ × List Duration) Text :=
  fun value (state, noted) =>
    let replaced := (replace value).run state
    (replaced.1, replaced.2, noted ++ [value])

@[simp]
theorem noting_run {σ : Type} (replace : Duration → StateM σ Text) (value : Duration)
    (state : σ) (noted : List Duration) :
    (noting replace value).run (state, noted) =
      (((replace value).run state).1, ((replace value).run state).2, noted ++ [value]) :=
  rfl

/-- The durations that are handed to the replacer, in order. -/
def handed {σ : Type} (replace : Duration → StateM σ Text) (text : Text) (state : σ) :
    List Duration :=
  ((rewriteWith (noting replace) text).run (state, [])).2.2

/-- The duration that a piece stands for. -/
def Piece.value? : Piece → Option Duration
  | copied _ => none
  | duration _ value => some value

/-- Noting has no bearing on what is written, and the durations of the pieces
are noted. -/
theorem Piece.rewriteAll_noting {σ : Type} (replace : Duration → StateM σ Text)
    (pieces : List Piece) (state : σ) (noted : List Duration) :
    (rewriteAll (noting replace) pieces).run (state, noted) =
      let rewritten := (rewriteAll replace pieces).run state
      (rewritten.1, rewritten.2, noted ++ pieces.filterMap value?) := by
  induction pieces generalizing state noted with
  | nil => simp
  | cons piece pieces ih =>
      cases piece with
      | copied text => simp [ih, value?, List.filterMap_cons]
      | duration written value => simp [ih, value?]

/-- The durations written in a text, in order. -/
def durationsIn (text : Text) : List Duration :=
  (pieces text).filterMap Piece.value?

theorem handed_eq {σ : Type} (replace : Duration → StateM σ Text) (text : Text) (state : σ) :
    handed replace text state = durationsIn text := by
  rw [handed, rewriteWith_eq_rewriteAll, Piece.rewriteAll_noting]
  rfl

end Inlay.Duration
