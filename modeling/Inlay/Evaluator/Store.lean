import Inlay.Entries

/-!
# Stores

A store holds one value for each of finitely many names.  Publishing replaces
the value of a name that is present and adds a name that is not.
-/

namespace Inlay

/-- Values under names. -/
structure Store (ν : Type) where
  entries : Entries ν := []
  deriving DecidableEq

namespace Store

variable {ν : Type}

/-- The store without any name. -/
def empty : Store ν where

/-- The value of a name, if there is one. -/
def get? (store : Store ν) (name : Text) : Option ν :=
  store.entries.find? name

/-- Publish a value under a name. -/
def insert (store : Store ν) (name : Text) (value : ν) : Store ν where
  entries := store.entries.alter name fun _ => value

/-- Publish values under names, one after the other. -/
def insertAll (store : Store ν) (entries : Entries ν) : Store ν :=
  entries.foldl (fun published entry => published.insert entry.1 entry.2) store

@[simp]
theorem get?_empty (name : Text) : (empty : Store ν).get? name = none :=
  rfl

theorem get?_insert (store : Store ν) (name other : Text) (value : ν) :
    (store.insert name value).get? other =
      if other = name then some value else store.get? other :=
  Entries.find?_alter name other _ store.entries

@[simp]
theorem get?_insert_self (store : Store ν) (name : Text) (value : ν) :
    (store.insert name value).get? name = some value := by
  simp [get?_insert]

/-- Publishing the value that a name has already changes nothing. -/
theorem insert_eq_self {store : Store ν} {name : Text} {value : ν}
    (held : store.get? name = some value) : store.insert name value = store :=
  congrArg mk (Entries.alter_eq_self held)

end Store

end Inlay
