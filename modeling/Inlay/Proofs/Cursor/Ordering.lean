import Inlay.Proofs.Cursor.Locating
import Mathlib.Data.Prod.Lex
import Mathlib.Data.Set.Monotone
import Mathlib.Order.Interval.Set.Defs

/-!
# Locations in reading order

Locations are compared by line, and by column in the same line.  One more
character leads to a later location: a line feed to a later line, and any other
character to a later column.  So the locations go up along a source, and no two
positions of it have the same one.
-/

namespace Inlay

namespace Location

variable {first second : Location}

/-! ## The order -/

/-- Locations in reading order. -/
instance : PartialOrder Location :=
  PartialOrder.lift (fun location => toLex (location.line, location.column)) <| by
    rintro ⟨line, column⟩ ⟨line', column'⟩ same
    obtain ⟨rfl, rfl⟩ := Prod.mk.inj (toLex.injective same)
    rfl

theorem lt_iff :
    first < second ↔
      first.line < second.line ∨ first.line = second.line ∧ first.column < second.column :=
  Prod.Lex.toLex_lt_toLex

theorem lt_next (location : Location) (c : Char) : location < location.next c := by
  rw [lt_iff, next]
  by_cases ends : c = '\n'
  · simp [ends]
  · simp [ends]

theorem le_foldl_next (run : Text) (location : Location) : location ≤ run.foldl next location := by
  induction run generalizing location with
  | nil => exact le_refl location
  | cons c run ih => exact (lt_next location c).le.trans (ih (location.next c))

theorem lt_foldl_next {run : Text} (some : run ≠ []) (location : Location) :
    location < run.foldl next location := by
  obtain ⟨c, later, rfl⟩ := List.exists_cons_of_ne_nil some
  exact (lt_next location c).trans_le (le_foldl_next later (location.next c))

/-! ## Along a source -/

/-- The location at a position of a source. -/
def ofPosition (source : Text) (position : Nat) : Location :=
  (source.take position).foldl next origin

theorem strictMonoOn_ofPosition (source : Text) :
    StrictMonoOn (ofPosition source) (Set.Iic source.length) := by
  intro first _ second inside earlier
  have parts : source.take second = source.take first ++ (source.take second).drop first := by
    conv_lhs => rw [← List.take_append_drop first (source.take second)]
    rw [List.take_take, Nat.min_eq_left earlier.le]
  have between : (source.take second).drop first ≠ [] := by
    rw [← List.length_pos_iff, List.length_drop, List.length_take, Nat.min_eq_left inside]
    exact Nat.sub_pos_of_lt earlier
  rw [ofPosition, ofPosition, parts, List.foldl_append]
  exact lt_foldl_next between _

/-- Line feeds at the front, in a row and at the end. -/
example : (List.range 5).map (ofPosition ['\n', '\n', 'a', '\n']) =
    [⟨1, 0⟩, ⟨2, 0⟩, ⟨3, 0⟩, ⟨3, 1⟩, ⟨4, 0⟩] :=
  rfl

end Location

namespace Cursor

/-! ## At a place -/

theorem position_perform_le (source : Text) (actions : List Action) :
    (perform actions (start source)).2.position ≤ source.length := by
  have bound := (perform actions (start source)).2.position_le_length
  rwa [← length_source, source_perform, source_start] at bound

theorem location_perform (source : Text) (actions : List Action) :
    (perform actions (start source)).2.location =
      Location.ofPosition source (perform actions (start source)).2.position := by
  rw [((truthful_start source).perform actions).location_eq_foldl, source_perform, source_start,
    Location.ofPosition]

/-- Reading one character after the other reaches every position further on. -/
theorem position_perform_read {cursor : Cursor} {count : Nat}
    (inside : count ≤ cursor.after.length) :
    (perform (List.replicate count (.take .read)) cursor).2.position =
      cursor.position + count := by
  induction count generalizing cursor with
  | zero => rfl
  | succ count ih =>
      cases comes : cursor.after with
      | nil => simp [comes] at inside
      | cons c rest =>
          have comesOne : cursor.after = [c] ++ rest := comes
          have reads := Reads.pass comesOne
          have further : Sequence.stateLeft (Reading.read.scan cursor) = cursor.pass [c] rest := by
            rw [Reading.scan, Sequence.stateLeft_map, takes_read c rest comesOne]
            rfl
          have insideToo : count ≤ (cursor.pass [c] rest).after.length := by
            rw [after_pass comesOne]
            simpa [comes] using inside
          have reached := ih insideToo
          rw [reads.position_eq, List.length_singleton] at reached
          rw [List.replicate_succ, perform, List.map_cons, Sequence.inTurn, Action.scan, further]
          exact reached.trans (by omega)

/-- Every position of a source can be reached.  Whatever was done on the way to
two places of it, the one further on has the later location, in a later line or
in the same line at a later column, and places with the same location have the
same position. -/
theorem locations_identify_positions (source : Text) :
    (∀ position ≤ source.length, ∃ actions,
      (perform actions (start source)).2.position = position) ∧
    ∀ actions others : List Action,
      let cursor := (perform actions (start source)).2
      let other := (perform others (start source)).2
      (cursor.position < other.position ↔
        cursor.location.line < other.location.line ∨
          cursor.location.line = other.location.line ∧
            cursor.location.column < other.location.column) ∧
      (cursor.position = other.position ↔ cursor.location = other.location) := by
  constructor
  · intro position inside
    refine ⟨List.replicate position (.take .read), ?_⟩
    rw [position_perform_read inside, position_start, Nat.zero_add]
  · intro actions others cursor other
    have increasing := Location.strictMonoOn_ofPosition source
    have inside : cursor.position ∈ Set.Iic source.length := position_perform_le source actions
    have insideToo : other.position ∈ Set.Iic source.length := position_perform_le source others
    rw [← Location.lt_iff, location_perform source actions, location_perform source others]
    exact ⟨(increasing.lt_iff_lt inside insideToo).symm,
      (increasing.injOn.eq_iff inside insideToo).symm⟩

end Cursor

end Inlay
