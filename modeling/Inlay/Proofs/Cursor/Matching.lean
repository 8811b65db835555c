import Inlay.Proofs.Cursor.Locating

/-!
# Sequences as a whole or not at all

A wanted text and the text that comes begin with the same characters up to some
place, and part there.  Taking the wanted characters one by one gets exactly as
far.  If none of them is left by then, all were taken.  Otherwise either the
source ends at that place or another character stands there, and this is what
the fault of an expected sequence is about, although the cursor is back by then
where it began.
-/

namespace Inlay

/-! ## Where two texts part -/

/-- The longest text that two texts begin with. -/
structure CommonFront (first second front : Text) : Prop where
  left : front <+: first
  right : front <+: second
  longest : ∀ other, other <+: first → other <+: second → other <+: front

/-- Behind the front, the first of two texts ends or goes on otherwise than the
second. -/
def Parts (missing rest : Text) : Prop :=
  ∀ c ∈ missing.head?, rest.head? ≠ some c

theorem exists_parts (first second : Text) :
    ∃ front missing rest, first = front ++ missing ∧ second = front ++ rest ∧
      Parts missing rest := by
  induction first generalizing second with
  | nil => exact ⟨[], [], second, rfl, rfl, by simp [Parts]⟩
  | cons c first ih =>
      by_cases same : second.head? = some c
      · obtain ⟨second, rfl⟩ := List.head?_eq_some_iff.mp same
        obtain ⟨front, missing, rest, rfl, rfl, parts⟩ := ih second
        exact ⟨c :: front, missing, rest, rfl, rfl, parts⟩
      · exact ⟨[], c :: first, second, rfl, rfl, by simpa [Parts] using same⟩

theorem Parts.commonFront {front missing rest : Text} (parts : Parts missing rest) :
    CommonFront (front ++ missing) (front ++ rest) front where
  left := List.prefix_append front missing
  right := List.prefix_append front rest
  longest := by
    induction front with
    | nil =>
        rintro (_ | ⟨c, other⟩) leads leadsToo
        · exact List.prefix_refl []
        · obtain ⟨behind, same⟩ := leads
          obtain ⟨behindToo, sameToo⟩ := leadsToo
          rw [List.nil_append] at same sameToo
          exact absurd (sameToo ▸ rfl) (parts c (same ▸ rfl))
    | cons a front ih =>
        rintro (_ | ⟨c, other⟩) leads leadsToo
        · exact List.nil_prefix
        · rw [List.cons_append, List.cons_prefix_cons] at leads leadsToo
          rw [List.cons_prefix_cons]
          exact ⟨leads.1, ih other leads.2 leadsToo.2⟩

theorem Parts.prefix_iff {front missing rest : Text} (parts : Parts missing rest) :
    front ++ missing <+: front ++ rest ↔ missing = [] := by
  rw [List.prefix_append_right_inj]
  constructor
  · rintro ⟨behind, rfl⟩
    cases missing with
    | nil => rfl
    | cons c missing => exact absurd rfl (parts c rfl)
  · rintro rfl
    exact List.nil_prefix

namespace Cursor

open Sequence

variable {cursor : Cursor} {front missing rest later : Text} {c : Char}

/-! ## One character after the other -/

/-- Accept the given characters one by one, and tell whether all of them
came. -/
def acceptEach : Text → Scan Bool
  | [] => pure true
  | c :: wanted => do
      match ← accept c with
      | none => pure false
      | some _ => acceptEach wanted

/-- Run a scan that tells whether it succeeded; if it did not, return to where
it began. -/
def orReturn (scan : Scan Bool) : Scan Bool := fun cursor =>
  match scan cursor with
  | .ok false _ => .ok false { cursor with located := none }
  | outcome => outcome

/-- Accepting one by one gets to where the texts part. -/
theorem takes_acceptEach (parts : Parts missing rest) :
    Takes (acceptEach (front ++ missing)) missing.isEmpty front rest := by
  induction front with
  | nil =>
      cases missing with
      | nil => exact Takes.pure true rest
      | cons c missing =>
          have nothing : Takes (accept c) none [] ([] ++ rest) := takes_accept_none (parts c rfl)
          exact nothing.bind (Takes.pure false rest)
  | cons c front ih => exact (takes_accept c (front ++ rest)).bind ih

/-- Expecting one by one takes what comes. -/
theorem takes_expectEach (front rest : Text) :
    Takes (front.forM fun c => discard (expect c)) () front rest := by
  induction front with
  | nil => exact Takes.pure () rest
  | cons c front ih => exact (takes_expect c (front ++ rest)).discard.bind ih

/-- Expecting one by one fails at the first character that does not come. -/
theorem expectEach_of_error {fault : Fault} {reached : Cursor}
    (comes : cursor.after = front ++ rest)
    (fails : expect c (cursor.pass front rest) = .error fault reached) :
    (front ++ c :: later).forM (fun c => discard (expect c)) cursor = .error fault reached := by
  induction front generalizing cursor with
  | nil => exact bind_of_error (map_of_error fails)
  | cons a front ih =>
      have taken : discard (expect a) cursor = .ok () (cursor.pass [a] (front ++ rest)) :=
        (takes_expect a (front ++ rest)).discard comes
      have failsBehind : expect c ((cursor.pass [a] (front ++ rest)).pass front rest) =
          .error fault reached := by
        rw [pass_pass]
        exact fails
      exact (bind_of_ok taken).trans (ih (after_pass comes) failsBehind)

/-! ## What is reported -/

/-- The fault about a character that does not come at a place of the source:
the source ends there, or another character stands there, with its line and
column. -/
def faultAt (source : Text) (place : Nat) : Fault :=
  match source[place]? with
  | none => .endOfInput source.length
  | some found =>
      let located := (source.take place).foldl Location.next Location.origin
      .unexpected found located.line located.column

/-- What does not come is reported for the place of the cursor. -/
theorem Truthful.exists_expect_eq_error (truthful : cursor.Truthful)
    (other : cursor.after.head? ≠ some c) :
    ∃ reached, expect c cursor = .error (faultAt cursor.source cursor.position) reached := by
  have refused : expect c cursor = refuse cursor := bind_of_ok (takes_accept_none other rfl)
  rw [refused, faultAt, getElem?_source_position, ← truthful.location_eq_foldl, length_source,
    refuse]
  cases cursor.after with
  | nil => exact ⟨cursor, rfl⟩
  | cons found rest => exact ⟨cursor.locate, rfl⟩

/-! ## Sequences -/

/-- A sequence that comes is taken. -/
theorem takes_acceptSequence (wanted rest : Text) :
    Takes (acceptSequence wanted) true wanted rest := by
  intro cursor comes
  have found : wanted.isPrefixOf? cursor.after = some rest :=
    List.isPrefixOf?_eq_some_iff_append_eq.mpr comes.symm
  simp only [acceptSequence, found]

theorem takes_expectSequence (wanted rest : Text) :
    Takes (expectSequence wanted) () wanted rest := by
  intro cursor comes
  simp only [expectSequence, atomically, takes_expectEach wanted rest comes]

/-- A sequence that does not come as a whole is not taken. -/
theorem acceptSequence_of_parts (comes : cursor.after = front ++ rest)
    (parts : Parts (c :: later) rest) :
    acceptSequence (front ++ c :: later) cursor = .ok false { cursor with located := none } := by
  have missing : (front ++ c :: later).isPrefixOf? cursor.after = none := by
    rw [Option.eq_none_iff_forall_ne_some, comes]
    intro behind found
    have leads : front ++ c :: later <+: front ++ rest :=
      ⟨behind, List.isPrefixOf?_eq_some_iff_append_eq.mp found⟩
    exact absurd (parts.prefix_iff.mp leads) (List.cons_ne_nil c later)
  simp only [acceptSequence, missing]

/-- What is reported then is the place where the texts part, and the cursor is
where it was. -/
theorem Truthful.expectSequence_of_parts (truthful : cursor.Truthful)
    (comes : cursor.after = front ++ rest) (parts : Parts (c :: later) rest) :
    expectSequence (front ++ c :: later) cursor =
      .error (faultAt cursor.source (cursor.position + front.length))
        { cursor with located := none } := by
  have truthfulBehind : (cursor.pass front rest).Truthful :=
    (truthful.samePlace.pass front rest).truthful
  have other : (cursor.pass front rest).after.head? ≠ some c := by
    rw [after_pass comes]
    exact parts c rfl
  obtain ⟨reached, fails⟩ := truthfulBehind.exists_expect_eq_error other
  rw [source_pass comes, (Reads.pass comes).position_eq] at fails
  simp only [expectSequence, atomically, expectEach_of_error comes fails]

/-- Accepting a sequence is accepting its characters one by one, and returning
if one of them does not come. -/
theorem acceptSequence_eq (wanted : Text) :
    acceptSequence wanted = orReturn (acceptEach wanted) := by
  funext cursor
  obtain ⟨front, missing, rest, rfl, comes, parts⟩ := exists_parts wanted cursor.after
  rw [orReturn, takes_acceptEach parts comes]
  cases missing with
  | nil =>
      rw [List.append_nil]
      exact takes_acceptSequence front rest comes
  | cons c later => exact acceptSequence_of_parts comes parts

/-- At whatever place actions have led to, a sequence that comes next is taken
as a whole, whether it is accepted or expected.  Otherwise the place stays as it
was; accepting, which takes characters one by one and returns if one does not
come, says so, and expecting fails with the fault about the character behind the
longest front that the sequence has in common with what comes. -/
theorem sequence_taken_as_a_whole (source : Text) (actions : List Action) (wanted : Text) :
    let cursor := (perform actions (start source)).2
    let rest := source.drop cursor.position
    acceptSequence wanted = orReturn (acceptEach wanted) ∧
    (wanted <+: rest → ∃ reached,
      acceptSequence wanted cursor = .ok true reached ∧
      expectSequence wanted cursor = .ok () reached ∧
      reached.source = source ∧ reached.position = cursor.position + wanted.length) ∧
    (¬wanted <+: rest → ∃ front reached,
      CommonFront wanted rest front ∧
      acceptSequence wanted cursor = .ok false reached ∧
      expectSequence wanted cursor =
        .error (faultAt source (cursor.position + front.length)) reached ∧
      reached.source = source ∧ reached.position = cursor.position) := by
  intro cursor rest
  have kept : cursor.source = source := by rw [source_perform, source_start]
  have truthful : cursor.Truthful := (truthful_start source).perform actions
  have after : cursor.after = rest := by rw [after_eq_drop, kept]
  refine ⟨acceptSequence_eq wanted, ?_, ?_⟩
  · rintro ⟨behind, leads⟩
    have comes : cursor.after = wanted ++ behind := after.trans leads.symm
    refine ⟨cursor.pass wanted behind, takes_acceptSequence wanted behind comes,
      takes_expectSequence wanted behind comes, (source_pass comes).trans kept,
      (Reads.pass comes).position_eq⟩
  · intro apart
    obtain ⟨front, missing, behind, rfl, leads, parts⟩ := exists_parts wanted rest
    have comes : cursor.after = front ++ behind := after.trans leads
    have common : CommonFront (front ++ missing) (front ++ behind) front := parts.commonFront
    rw [← leads] at common
    cases missing with
    | nil => exact absurd common.right (by simpa using apart)
    | cons c later =>
        have failed := truthful.expectSequence_of_parts comes parts
        rw [kept] at failed
        exact ⟨front, _, common, acceptSequence_of_parts comes parts, failed, kept, rfl⟩

/-- The place that is reported is behind the line feed, where the texts part. -/
example : expectSequence ['a', '\n', 'b'] (start ['a', '\n', 'c']) =
    .error (.unexpected 'c' 2 0) (start ['a', '\n', 'c']) :=
  rfl

end Cursor

end Inlay
