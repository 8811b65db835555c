import Inlay.Proofs.Cursor.Reading

/-!
# Locations along a source

The location of a place can be told by going through the characters in front of
it one by one: a line feed begins a new line, and every other character is one
column more.  A cursor tells it from the characters behind it, or remembers it;
whatever was done with the cursor before, both come to the same.
-/

namespace Inlay

namespace Location

/-! ## One character at a time -/

/-- The location in front of a source. -/
def origin : Location where
  line := 1
  column := 0

/-- The location behind one more character. -/
def next (location : Location) (c : Char) : Location :=
  if c = '\n' then ⟨location.line + 1, 0⟩ else ⟨location.line, location.column + 1⟩

theorem behind_cons (c : Char) (before : Text) :
    behind (c :: before) = (behind before).next c := by
  by_cases ends : c = '\n'
  · simp [behind, next, ends]
  · simp [behind, next, ends]

/-- The location behind a text, from its characters in order. -/
theorem behind_reverse (text : Text) : behind text.reverse = text.foldl next origin := by
  rw [← List.foldr_reverse]
  induction text.reverse with
  | nil => rfl
  | cons c before ih => rw [behind_cons, ih, List.foldr_cons]

/-- The column counts the characters behind the last line feed, or all of them
if there is none. -/
theorem column_behind {last before : Text} (inside : '\n' ∉ last)
    (ended : ∀ c ∈ before.head?, c = '\n') :
    (behind (last.reverse ++ before)).column = last.length := by
  have same : ∀ c ∈ last.reverse, (c != '\n') = true := by
    intro c member
    have different : c ≠ '\n' := fun ends => inside (ends ▸ List.mem_reverse.mp member)
    simpa using different
  have stops : before.takeWhile (· != '\n') = [] := by
    cases before with
    | nil => rfl
    | cons c before => simp [ended c rfl]
  rw [behind, List.takeWhile_append_of_pos same, stops, List.append_nil, List.length_reverse]

end Location

namespace Cursor

/-! ## Whatever was done with the cursor -/

theorem consumed_eq_take (cursor : Cursor) :
    cursor.consumed = cursor.source.take cursor.position := by
  rw [source, position, ← List.length_reverse, List.take_left, consumed]

theorem Truthful.location_eq_foldl {cursor : Cursor} (truthful : cursor.Truthful) :
    cursor.location =
      (cursor.source.take cursor.position).foldl Location.next Location.origin := by
  rw [truthful.location_eq, ← consumed_eq_take, ← Location.behind_reverse, consumed,
    List.reverse_reverse]

/-- Behind any actions the source is what it was, the position lies in it, and
the location that the cursor remembers or works out is the one of the text that
was consumed. -/
theorem location_of_place (source : Text) (actions : List Action) :
    let reached := (perform actions (start source)).2
    let located := reached.consumed.foldl Location.next Location.origin
    reached.source = source ∧
      reached.position ≤ source.length ∧
      reached.consumed = source.take reached.position ∧
      (∀ location ∈ reached.located, location = located) ∧
      reached.location = located ∧
      reached.location.line = 1 + reached.consumed.count '\n' ∧
      ('\n' ∉ reached.consumed → reached.location.column = reached.consumed.length) ∧
      ∀ lines last, reached.consumed = lines ++ '\n' :: last → '\n' ∉ last →
        reached.location.column = last.length := by
  intro reached located
  have kept : reached.source = source := by rw [source_perform, source_start]
  have truthful : reached.Truthful := (truthful_start source).perform actions
  have behind : Location.behind reached.before = Location.behind reached.consumed.reverse := by
    rw [consumed, List.reverse_reverse]
  have known : reached.location = Location.behind reached.consumed.reverse := by
    rw [truthful.location_eq, behind]
  refine ⟨kept, ?_, ?_, ?_, ?_, ?_, ?_, ?_⟩
  · rw [← kept, length_source]
    exact reached.position_le_length
  · rw [consumed_eq_take, kept]
  · intro location remembered
    rw [truthful location remembered, behind, Location.behind_reverse]
  · rw [known, Location.behind_reverse]
  · rw [known, Location.behind, List.count_reverse, Nat.add_comm]
  · intro inside
    have column := Location.column_behind inside (by simp : ∀ c ∈ ([] : Text).head?, c = '\n')
    rwa [known, ← List.append_nil reached.consumed.reverse]
  · intro lines last split inside
    rw [known, split, List.reverse_append, List.reverse_cons, List.append_assoc,
      List.singleton_append, Location.column_behind inside (by simp)]

end Cursor

end Inlay
