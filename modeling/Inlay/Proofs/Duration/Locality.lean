import Inlay.Proofs.Duration.Cutting

/-!
# Rewriting between separators

A separator is a character that no duration literal has: no digit, no blank and
no letter of a unit.  Where two texts meet at a separator, no literal of the
first goes on into the second, although a match does look beyond the literal it
takes.  So the texts are cut one after the other, and rewriting them in a row is
rewriting each of them.

A range of bytes is rewritten as a text of its own.  With separators at its ends
this is what rewriting the whole text does there.
-/

namespace Inlay

/-! ## Ranges of bytes -/

namespace Text

variable {text : Text} {first last : Nat}

/-- At the byte offset a character begins, or the text ends. -/
def Boundary (text : Text) (offset : Nat) : Prop :=
  ∃ before behind, text = before ++ behind ∧ before.byteLength = offset

/-- The byte offsets cut the text in three. -/
structure CutsRange (text : Text) (first last : Nat) (before range behind : Text) : Prop where
  whole : text = before ++ (range ++ behind)
  start : before.byteLength = first
  stop : byteLength (before ++ range) = last

/-- The byte offsets are out of order, too large, or not boundaries. -/
def OutOfRange (text : Text) (first last : Nat) : Prop :=
  last < first ∨ text.byteLength < last ∨ ¬ text.Boundary first ∨ ¬ text.Boundary last

theorem Boundary.le_byteLength {offset : Nat} (boundary : text.Boundary offset) :
    offset ≤ text.byteLength := by
  obtain ⟨before, behind, rfl, rfl⟩ := boundary
  rw [byteLength_append]
  exact Nat.le_add_right _ _

/-- Two boundaries in order are all that it takes. -/
theorem outOfRange_iff :
    text.OutOfRange first last ↔ ¬ (first ≤ last ∧ text.Boundary first ∧ text.Boundary last) := by
  constructor
  · rintro (reversed | tooLong | noStart | noStop) ⟨ordered, start, stop⟩
    · exact Nat.not_lt.mpr ordered reversed
    · exact Nat.not_lt.mpr stop.le_byteLength tooLong
    · exact noStart start
    · exact noStop stop
  · intro missing
    by_cases ordered : first ≤ last
    · by_cases start : text.Boundary first
      · exact .inr (.inr (.inr fun stop => missing ⟨ordered, start, stop⟩))
      · exact .inr (.inr (.inl start))
    · exact .inl (Nat.not_le.mp ordered)

/-- The byte offsets cut a text in three exactly if they are not out of range. -/
theorem exists_cutsRange_iff :
    (∃ before range behind, CutsRange text first last before range behind) ↔
      ¬ text.OutOfRange first last := by
  rw [outOfRange_iff, not_not]
  constructor
  · rintro ⟨before, range, behind, rfl, rfl, rfl⟩
    refine ⟨?_, ⟨before, _, rfl, rfl⟩, ⟨before ++ range, behind, ?_, rfl⟩⟩
    · rw [byteLength_append]
      exact Nat.le_add_right _ _
    · rw [List.append_assoc]
  · rintro ⟨ordered, ⟨before, rest, rfl, rfl⟩, ⟨upToLast, behind, same, rfl⟩⟩
    rcases List.append_eq_append_iff.mp same with ⟨range, rfl, rfl⟩ | ⟨extra, rfl, rfl⟩
    · exact ⟨before, range, behind, rfl, rfl, rfl⟩
    · -- The second offset is not the smaller one, so the boundaries are one.
      have empty : extra = [] := by
        rw [byteLength_append] at ordered
        exact byteLength_eq_zero_iff.mp (by omega)
      subst empty
      exact ⟨upToLast, [], rest, by simp, by simp, by simp⟩

/-- The text in front of a range of bytes, the range, and the text behind it. -/
def cutRange? (first last : Nat) (text : Text) : Option (Text × Text × Text) := do
  let (upToLast, behind) ← text.splitAtByte? last
  let (before, range) ← splitAtByte? first upToLast
  some (before, range, behind)

theorem cutRange?_eq_some_iff {before range behind : Text} :
    text.cutRange? first last = some (before, range, behind) ↔
      CutsRange text first last before range behind := by
  simp only [cutRange?, Option.bind_eq_bind, Option.bind_eq_some_iff, Prod.exists,
    splitAtByte?_eq_some_iff, Option.some.injEq, Prod.mk.injEq]
  constructor
  · rintro ⟨_, _, ⟨rfl, stop⟩, _, _, ⟨rfl, start⟩, rfl, rfl, rfl⟩
    exact ⟨List.append_assoc _ _ _, start, stop⟩
  · rintro ⟨rfl, start, stop⟩
    exact ⟨before ++ range, behind, ⟨(List.append_assoc _ _ _).symm, stop⟩, before, range,
      ⟨rfl, start⟩, rfl, rfl, rfl⟩

theorem cutRange?_eq_none_iff : text.cutRange? first last = none ↔ text.OutOfRange first last := by
  rw [← not_iff_not, ← exists_cutsRange_iff, ← Ne, Option.ne_none_iff_exists']
  simp only [Prod.exists, cutRange?_eq_some_iff]

end Text

namespace Duration

/-! ## Separators -/

/-- The character is in no literal. -/
def Separator (c : Char) : Prop :=
  c.isDigit = false ∧ Text.blank c = false ∧ c ∉ unitLetters

/-- One of the texts is empty, or there is a separator where they meet. -/
def Separated (first second : Text) : Prop :=
  first = [] ∨ second = [] ∨
    (∃ c ∈ first.getLast?, Separator c) ∨ ∃ c ∈ second.head?, Separator c

theorem Literal.not_separator {parts : List Part} {text : Text} (literal : Literal parts text)
    {c : Char} (member : c ∈ text) : ¬ Separator c := by
  rintro ⟨digit, blank, letter⟩
  rcases literal.form.row.mem_cases member with isBlank | isDigit | isLetter
  · simp [blank] at isBlank
  · simp [digit] at isDigit
  · exact letter isLetter

namespace Separated

variable {first second : Text}

/-- Less in front does not bring the texts together. -/
theorem of_append {before : Text} (separated : Separated (before ++ first) second) :
    Separated first second := by
  rcases separated with empty | empty | ⟨c, last, separator⟩ | next
  · exact .inl (List.append_eq_nil_iff.mp empty).2
  · exact .inr (.inl empty)
  · rcases first.eq_nil_or_concat with rfl | ⟨init, d, rfl⟩
    · exact .inl rfl
    · exact .inr (.inr (.inl ⟨c, by simpa using last, separator⟩))
  · exact .inr (.inr (.inr next))

theorem of_cons {c : Char} (separated : Separated (c :: first) second) :
    Separated first second :=
  @of_append first second [c] separated

/-- A literal at the front of the first text ends there. -/
theorem prefix_of_prefix_append {parts : List Part} {written : Text}
    (separated : Separated first second) (some : first ≠ []) (literal : Literal parts written)
    (starts : written <+: first ++ second) : written <+: first := by
  obtain ⟨behind, same⟩ := starts
  rcases List.append_eq_append_iff.mp same with ⟨between, rfl, _⟩ | ⟨beyond, rfl, rfl⟩
  · exact List.prefix_append written between
  · rcases separated with empty | empty | ⟨c, last, separator⟩ | ⟨c, next, separator⟩
    · exact absurd empty some
    · obtain rfl := (List.append_eq_nil_iff.mp empty).1
      simp
    · have member : c ∈ first ++ beyond :=
        List.mem_append_left _ (List.mem_of_getLast? last)
      exact absurd separator (literal.not_separator member)
    · cases beyond with
      | nil => simp
      | cons d beyond =>
          obtain rfl : d = c := by simpa using next
          have member : d ∈ first ++ d :: beyond := by simp
          exact absurd separator (literal.not_separator member)

end Separated

/-! ## Texts in a row -/

/-- Texts that meet at a separator are cut one after the other. -/
theorem Cuts.append {first second : Text} {found later : List Piece} (front : Cuts first found)
    (back : Cuts second later) (separated : Separated first second) :
    Cuts (first ++ second) (found ++ later) := by
  induction front with
  | done => exact back
  | @literal parts written rest found longest _ ih =>
      have nonempty : written ++ rest ≠ [] :=
        List.append_ne_nil_of_left_ne_nil longest.literal.text_ne_nil rest
      have further : Longest parts written (rest ++ second) := by
        refine ⟨longest.literal, fun literal starts => longest.length_le literal ?_⟩
        rw [← List.append_assoc] at starts
        exact separated.prefix_of_prefix_append nonempty literal starts
      rw [List.append_assoc]
      exact .literal further (ih separated.of_append)
  | @copied c rest found none _ ih =>
      refine .copied (fun parts written literal starts => ?_) (ih separated.of_cons)
      exact none parts written literal
        (separated.prefix_of_prefix_append (List.cons_ne_nil c rest) literal starts)

theorem cut_append {first second : Text} (separated : Separated first second) :
    cut (first ++ second) = cut first ++ cut second :=
  cuts_iff.mp ((cuts_cut first).append (cuts_cut second) separated)

/-! ## Rewriting in a row -/

section Rewriting

variable {σ : Type} (replace : Duration → StateM σ Text) {first second : Text}

theorem Piece.rewriteAll_append (front back : List Piece) :
    rewriteAll replace (front ++ back) = (do
      let before ← rewriteAll replace front
      let behind ← rewriteAll replace back
      pure (before ++ behind)) := by
  simp [rewriteAll, List.mapM_append]

/-- Texts that meet at a separator are rewritten one after the other. -/
theorem rewriteWith_append (separated : Separated first second) :
    rewriteWith replace (first ++ second) = (do
      let front ← rewriteWith replace first
      let back ← rewriteWith replace second
      pure (front ++ back)) := by
  have along (text : Text) : rewriteWith replace text = Piece.rewriteAll replace (cut text) :=
    funext (rewriteWith_eq_cut replace text)
  rw [along, along, along, cut_append separated, Piece.rewriteAll_append]

/-- The replacer is handed the durations of one text, and then those of the
other. -/
theorem handed_append (separated : Separated first second) (state : σ) :
    handed replace (first ++ second) state =
      handed replace first state ++
        handed replace second ((rewriteWith replace first).run state).2 := by
  simp only [handed_eq, durationsIn_eq_cut, cut_append separated, List.filterMap_append]

/-- With a separator at both its ends a range is rewritten between the texts
around it. -/
theorem rewriteWith_range {before range behind : Text}
    (start : Separated before (range ++ behind)) (stop : Separated range behind) :
    rewriteWith replace (before ++ (range ++ behind)) = (do
      let front ← rewriteWith replace before
      let middle ← rewriteWith replace range
      let back ← rewriteWith replace behind
      pure (front ++ (middle ++ back))) := by
  rw [rewriteWith_append replace start, rewriteWith_append replace stop]
  simp only [bind_assoc, pure_bind]

end Rewriting

/-! ## Where the durations stand -/

namespace Piece

variable {pieces : List Piece} {before written behind : Text}

theorem Stands.flatMap_source (stands : Stands pieces before written behind) :
    pieces.flatMap source = before ++ (written ++ behind) := by
  obtain ⟨front, value, back, rfl, rfl, rfl⟩ := stands
  simp [source]

/-- Pieces in front only put their text in front. -/
theorem stands_append_iff (front : List Piece) (some : written ≠ []) :
    Stands (front ++ pieces) (front.flatMap source ++ before) written behind ↔
      Stands pieces before written behind := by
  induction front with
  | nil => rfl
  | cons piece front ih =>
      rw [List.flatMap_cons, List.append_assoc, List.cons_append]
      cases piece with
      | copied text => simp [stands_copied_iff, source, ih]
      | duration here value =>
          rw [stands_duration_iff]
          constructor
          · rintro (⟨empty, rfl, _⟩ | ⟨between, same, stands⟩)
            · exact absurd (List.append_eq_nil_iff.mp empty).1 some
            · rwa [← List.append_cancel_left same, ih] at stands
          · intro stands
            exact .inr ⟨_, rfl, ih.mpr stands⟩

/-- Pieces behind only put their text behind. -/
theorem stands_append_right_iff (back : List Piece) (some : written ≠ []) :
    Stands (pieces ++ back) before written (behind ++ back.flatMap source) ↔
      Stands pieces before written behind := by
  induction pieces generalizing before with
  | nil =>
      rw [iff_false_right not_stands_nil, List.nil_append]
      intro stands
      have lengths := congrArg List.length stands.flatMap_source
      have positive := List.length_pos_iff.mpr some
      simp only [List.length_append] at lengths
      omega
  | cons piece pieces ih =>
      rw [List.cons_append]
      cases piece with
      | copied text => simp only [stands_copied_iff, ih]
      | duration here value =>
          simp only [stands_duration_iff, ih, List.flatMap_append, List.append_cancel_right_eq]

end Piece

theorem Cuts.written_ne_nil {text : Text} {found : List Piece} (cuts : Cuts text found)
    {before written behind : Text} (stands : Piece.Stands found before written behind) :
    written ≠ [] := by
  induction cuts generalizing before with
  | done => exact absurd stands Piece.not_stands_nil
  | literal longest _ ih =>
      rcases Piece.stands_duration_iff.mp stands with ⟨_, rfl, _⟩ | ⟨between, _, later⟩
      · exact longest.literal.text_ne_nil
      · exact ih later
  | copied _ _ ih =>
      obtain ⟨between, _, later⟩ := Piece.stands_copied_iff.mp stands
      exact ih later

/-- With a separator at both its ends, the same is rewritten in a range as in the
whole text. -/
theorem rewritten_range_iff {before range behind passed written left : Text}
    (start : Separated before (range ++ behind)) (stop : Separated range behind) :
    Rewritten (before ++ (range ++ behind)) (before ++ passed) written (left ++ behind) ↔
      Rewritten range passed written left := by
  rw [rewritten_iff, rewritten_iff]
  by_cases some : written = []
  · constructor <;> intro stands <;> exact absurd some ((cuts_cut _).written_ne_nil stands)
  · have front := (cuts_cut before).flatMap_source
    have back := (cuts_cut behind).flatMap_source
    rw [cut_append start, cut_append stop]
    nth_rewrite 2 [← front]
    nth_rewrite 2 [← back]
    rw [Piece.stands_append_iff _ some, Piece.stands_append_right_iff _ some]

/-! ## Rewriting a range -/

section Range

variable {σ : Type} (replace : Duration → StateM σ Text) {first last : UInt64}
  {text before range behind : Text}

theorem rewriteRange_eq (first last : UInt64) (text : Text) :
    rewriteRange replace first last text =
      (match text.cutRange? first.toNat last.toNat with
      | none => throw (.outOfRange last.toInt64.toInt text.byteLength)
      | some (before, range, behind) => do
          let rewritten ← rewriteWith replace range
          pure (before ++ rewritten ++ behind)) :=
  rfl

theorem rewriteRange_of_outOfRange (outside : text.OutOfRange first.toNat last.toNat)
    (state : σ) :
    (rewriteRange replace first last text).run.run state =
      (.error (.outOfRange last.toInt64.toInt text.byteLength), state) := by
  rw [rewriteRange_eq, Text.cutRange?_eq_none_iff.mpr outside]
  rfl

/-- Only the range is rewritten. -/
theorem rewriteRange_of_cutsRange
    (cuts : text.CutsRange first.toNat last.toNat before range behind) (state : σ) :
    (rewriteRange replace first last text).run.run state =
      let rewritten := (rewriteWith replace range).run state
      (.ok (before ++ rewritten.1 ++ behind), rewritten.2) := by
  rw [rewriteRange_eq, Text.cutRange?_eq_some_iff.mpr cuts]
  rfl

/-- Texts that meet at a separator, or of which one is empty, are rewritten one
after the other.  So a range of bytes that is cut off by separators, or by the
ends of the text, is rewritten as it is within the text; rewriting a range fails
exactly if the offsets are out of order, too large or not boundaries, and then
nothing is replaced. -/
theorem rewriting_is_local (replace : Duration → StateM σ Text) :
    (∀ first second, Separated first second →
      rewriteWith replace (first ++ second) = (do
        let front ← rewriteWith replace first
        let back ← rewriteWith replace second
        pure (front ++ back)) ∧
      ∀ state, handed replace (first ++ second) state =
        handed replace first state ++
          handed replace second ((rewriteWith replace first).run state).2) ∧
      ∀ (first last : UInt64) (text : Text),
        (text.OutOfRange first.toNat last.toNat → ∀ state,
          (rewriteRange replace first last text).run.run state =
            (.error (.outOfRange last.toInt64.toInt text.byteLength), state)) ∧
        (¬ text.OutOfRange first.toNat last.toNat → ∃ before range behind,
          text.CutsRange first.toNat last.toNat before range behind ∧
          (∀ state, (rewriteRange replace first last text).run.run state =
            let rewritten := (rewriteWith replace range).run state
            (.ok (before ++ rewritten.1 ++ behind), rewritten.2)) ∧
          (Separated before (range ++ behind) → Separated (before ++ range) behind →
            rewriteWith replace text = (do
              let front ← rewriteWith replace before
              let middle ← rewriteWith replace range
              let back ← rewriteWith replace behind
              pure (front ++ (middle ++ back))) ∧
            ∀ passed written left,
              Rewritten text (before ++ passed) written (left ++ behind) ↔
                Rewritten range passed written left)) := by
  constructor
  · intro first second separated
    exact ⟨rewriteWith_append replace separated, handed_append replace separated⟩
  · intro first last text
    constructor
    · exact rewriteRange_of_outOfRange replace
    · intro inside
      obtain ⟨before, range, behind, cuts⟩ := Text.exists_cutsRange_iff.mpr inside
      refine ⟨before, range, behind, cuts, rewriteRange_of_cutsRange replace cuts, ?_⟩
      intro start stop
      obtain rfl := cuts.whole
      have ends : Separated range behind := stop.of_append
      constructor
      · exact rewriteWith_range replace start ends
      · intro passed written left
        exact rewritten_range_iff start ends

/-- A range behind a character of two bytes, and one that begins inside it. -/
example :
    let run first last := ((rewriteRange (fun value => pure value.digits) first last
      "é(5s)1s".toList).run.run ()).1
    run 2 6 = .ok "é(5000)1s".toList ∧ run 1 6 = .error (.outOfRange 6 8) := by
  decide +kernel

end Range

end Duration

end Inlay
