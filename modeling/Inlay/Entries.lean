import Inlay.Text.Basic

/-!
# Entries

A list of names with something under each of them.  Altering what is under a
name keeps its place, and a name that is new comes behind all others; so the
names stay in the order in which they arrived.
-/

namespace Inlay

/-- Something under each of a list of names. -/
abbrev Entries (α : Type) := List (Text × α)

namespace Entries

variable {α : Type}

/-- What is under a name, if anything. -/
def find? (name : Text) : Entries α → Option α
  | [] => none
  | entry :: rest => if entry.1 = name then some entry.2 else find? name rest

/-- Change what is under a name. -/
def alter (name : Text) (change : Option α → α) : Entries α → Entries α
  | [] => [(name, change none)]
  | entry :: rest =>
      if entry.1 = name then
        (name, change (some entry.2)) :: rest
      else
        entry :: alter name change rest

/-- Change what is under a name, if the change is possible. -/
def alter? (name : Text) (change : Option α → Option α) : Entries α → Option (Entries α)
  | [] => do
      let value ← change none
      pure [(name, value)]
  | entry :: rest =>
      if entry.1 = name then do
        let value ← change (some entry.2)
        pure ((name, value) :: rest)
      else do
        let changed ← alter? name change rest
        pure (entry :: changed)

@[simp]
theorem find?_nil (name : Text) : find? name ([] : Entries α) = none :=
  rfl

/-- Altering changes what is found under the name, and under no other. -/
theorem find?_alter (name other : Text) (change : Option α → α) (entries : Entries α) :
    find? other (alter name change entries) =
      if other = name then some (change (find? name entries)) else find? other entries := by
  induction entries with
  | nil => simp [alter, find?, eq_comm]
  | cons entry rest ih =>
      by_cases present : entry.1 = name
      · by_cases asked : other = name
        · simp [alter, find?, present, asked]
        · simp [alter, find?, present, asked, Ne.symm asked]
      · by_cases found : entry.1 = other
        · simp [alter, find?, ← found, present]
        · simp [alter, find?, present, found, ih]

/-- Putting under a name what is there already changes nothing. -/
theorem alter_eq_self {name : Text} {value : α} {entries : Entries α}
    (present : find? name entries = some value) :
    alter name (fun _ => value) entries = entries := by
  induction entries with
  | nil => contradiction
  | cons entry rest ih =>
      by_cases here : entry.1 = name
      · rw [find?, if_pos here] at present
        rw [alter, if_pos here, ← here, ← Option.some.inj present]
      · rw [find?, if_neg here] at present
        rw [alter, if_neg here, ih present]

end Entries

end Inlay
