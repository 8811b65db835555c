import Inlay.Proofs.Template.Grammar
import Mathlib.Data.Fintype.List
import Mathlib.Data.Set.Finite.Range
import Mathlib.Logic.Equiv.Fintype

/-!
# Renaming characters

A character means something in a template only because it is a delimiter.  If
all characters are renamed, those of the text together with the delimiters, and
no two become the same, then a row of pieces becomes a row of the renamed pieces,
and a text that breaks off breaks off at the same place.  So parsing gives the
renamed segments, or fails in the same way.

Which characters the delimiters are does not matter then, but only which of them
are the same: if this agrees for two choices of delimiters, some renaming takes
one to the other.
-/

namespace Inlay

open Template

variable {change : Char → Char} {delimiters : Delimiters} {c : Char} {text rest : Text}

/-! ## Renamed templates -/

/-- The delimiters, each of them renamed. -/
def Delimiters.rename (change : Char → Char) (delimiters : Delimiters) : Delimiters where
  codeOpen := change delimiters.codeOpen
  codeClose := change delimiters.codeClose
  escape := change delimiters.escape
  nameOpen := change delimiters.nameOpen
  nameClose := change delimiters.nameClose

/-- The unit for the renamed character. -/
def LiteralUnit.rename (change : Char → Char) : LiteralUnit → LiteralUnit
  | plain c => plain (change c)
  | escaped c => escaped (change c)

/-- The fragment with renamed code and name. -/
def Fragment.rename (change : Char → Char) (fragment : Fragment) : Fragment where
  code := fragment.code.map change
  name := fragment.name.map (List.map change)

/-- The segment with all of its characters renamed. -/
def Segment.rename (change : Char → Char) : Segment → Segment
  | literal text => literal (text.map change)
  | code fragment => code (fragment.rename change)

/-- The piece with all of its characters renamed. -/
def Template.Piece.rename (change : Char → Char) : Piece → Piece
  | literal units => literal (units.map (LiteralUnit.rename change))
  | code fragment => code (fragment.rename change)

/-- The stump with all of its characters renamed. -/
def Template.Stump.rename (change : Char → Char) : Stump → Stump
  | code text => code (text.map change)
  | name inside text => name (inside.map change) (text.map change)
  | escape units => escape (units.map (LiteralUnit.rename change))

@[simp]
theorem Delimiters.get_rename (change : Char → Char) (delimiters : Delimiters) (role : Role) :
    (delimiters.rename change).get role = change (delimiters.get role) := by
  cases role <;> rfl

@[simp]
theorem LiteralUnit.meant_rename (change : Char → Char) (unit : LiteralUnit) :
    (unit.rename change).meant = change unit.meant := by
  cases unit <;> rfl

@[simp]
theorem Template.Piece.segment_rename (change : Char → Char) (piece : Piece) :
    (piece.rename change).segment = piece.segment.rename change := by
  cases piece with
  | code fragment => rfl
  | literal units => simp [rename, segment, Segment.rename, Function.comp_def]

/-! ## Written forms -/

theorem LiteralUnit.written_rename (change : Char → Char) (delimiters : Delimiters)
    (unit : LiteralUnit) :
    (unit.rename change).written (delimiters.rename change) =
      (unit.written delimiters).map change := by
  cases unit <;> rfl

theorem LiteralUnit.writtenAll_rename (change : Char → Char) (delimiters : Delimiters)
    (units : List LiteralUnit) :
    writtenAll (delimiters.rename change) (units.map (rename change)) =
      (writtenAll delimiters units).map change := by
  induction units with
  | nil => rfl
  | cons unit units ih => simp [written_rename, ih]

theorem Fragment.written_rename (change : Char → Char) (delimiters : Delimiters)
    (fragment : Fragment) :
    (fragment.rename change).written (delimiters.rename change) =
      (fragment.written delimiters).map change := by
  rcases fragment with ⟨code, name⟩
  cases name <;> simp [rename, written, writtenName, Delimiters.rename]

theorem Template.Piece.written_rename (change : Char → Char) (delimiters : Delimiters)
    (piece : Piece) :
    (piece.rename change).written (delimiters.rename change) =
      (piece.written delimiters).map change := by
  cases piece with
  | code fragment => exact fragment.written_rename change delimiters
  | literal units => exact LiteralUnit.writtenAll_rename change delimiters units

theorem Template.Stump.written_rename (change : Char → Char) (delimiters : Delimiters)
    (stump : Stump) :
    (stump.rename change).written (delimiters.rename change) =
      (stump.written delimiters).map change := by
  cases stump with
  | code text => simp [rename, written, Delimiters.rename]
  | name inside text => simp [rename, written, Delimiters.rename]
  | escape units =>
      simp only [rename, written, LiteralUnit.writtenAll_rename, List.map_append]
      rfl

/-! ## What fits -/

section

variable (injective : change.Injective)
include injective

/-- The renamed text begins with a renamed character exactly if the text begins
with the character. -/
theorem head?_rename_iff :
    (text.map change).head? = some (change c) ↔ text.head? = some c := by
  rw [List.head?_map]
  exact (Option.map_injective injective).eq_iff (b := some c)

theorem not_mem_rename (absent : c ∉ text) : change c ∉ text.map change :=
  (List.mem_map_of_injective injective).not.mpr absent

theorem LiteralUnit.Valid.rename {unit : LiteralUnit} (valid : unit.Valid delimiters) :
    (unit.rename change).Valid (delimiters.rename change) := by
  cases unit with
  | plain c => exact ⟨injective.ne valid.1, injective.ne valid.2⟩
  | escaped c => exact injective.ne valid

theorem LiteralUnit.forall_valid_rename {units : List LiteralUnit}
    (valid : ∀ unit ∈ units, unit.Valid delimiters) :
    ∀ unit ∈ units.map (LiteralUnit.rename change), unit.Valid (delimiters.rename change) := by
  intro unit member
  obtain ⟨original, originalMember, rfl⟩ := List.mem_map.mp member
  exact (valid original originalMember).rename injective

theorem LiteralUnit.Stops.rename (stops : Stops delimiters rest) :
    Stops (delimiters.rename change) (rest.map change) := by
  rcases stops with rfl | opens
  · exact .inl rfl
  · exact .inr ((head?_rename_iff injective).mpr opens)

theorem Fragment.Closed.rename {fragment : Fragment} (closed : fragment.Closed delimiters) :
    (fragment.rename change).Closed (delimiters.rename change) := by
  constructor
  · exact not_mem_rename injective closed.code
  · intro name named
    obtain ⟨original, originalNamed, rfl⟩ := Option.map_eq_some_iff.mp named
    exact not_mem_rename injective (closed.name original originalNamed)

theorem Fragment.EndsBefore.rename {fragment : Fragment}
    (ends : fragment.EndsBefore delimiters rest) :
    (fragment.rename change).EndsBefore (delimiters.rename change) (rest.map change) := by
  intro anonymous
  exact (head?_rename_iff injective).not.mpr (ends (Option.map_eq_none_iff.mp anonymous))

theorem Template.Piece.Fits.rename {piece : Piece} (fits : piece.Fits delimiters rest) :
    (piece.rename change).Fits (delimiters.rename change) (rest.map change) := by
  cases piece with
  | code fragment => exact ⟨fits.1.rename injective, fits.2.rename injective⟩
  | literal units =>
      obtain ⟨some, valid, stops⟩ := fits
      exact ⟨by simpa using some, LiteralUnit.forall_valid_rename injective valid,
        stops.rename injective⟩

theorem Template.Stump.Open.rename {stump : Stump} (waits : stump.Open delimiters) :
    (stump.rename change).Open (delimiters.rename change) := by
  cases stump with
  | code text => exact not_mem_rename injective waits
  | name inside text =>
      exact ⟨not_mem_rename injective waits.1, not_mem_rename injective waits.2⟩
  | escape units =>
      exact ⟨injective.ne waits.1, LiteralUnit.forall_valid_rename injective waits.2⟩

/-! ## Whole texts -/

/-- A row of pieces becomes the row of the renamed pieces. -/
theorem Template.Decomposes.rename {pieces : List Piece}
    (decomposes : Decomposes delimiters text pieces) :
    Decomposes (delimiters.rename change) (text.map change) (pieces.map (Piece.rename change)) := by
  induction pieces generalizing text with
  | nil =>
      obtain rfl : text = [] := decomposes.eq_flatMap_written
      exact .nil
  | cons piece later ih =>
      obtain ⟨rest, rfl, fits, more⟩ := decomposes.exists_rest
      rw [List.map_append, ← Piece.written_rename]
      exact (ih more).cons (fits.rename injective)

/-- A text that breaks off does so behind the renamed pieces. -/
theorem Template.BreaksOff.rename {pieces : List Piece} {stump : Stump}
    (breaks : BreaksOff delimiters text pieces stump) :
    BreaksOff (delimiters.rename change) (text.map change) (pieces.map (Piece.rename change))
      (stump.rename change) := by
  induction breaks with
  | stump waits =>
      rw [← Stump.written_rename]
      exact .stump (waits.rename injective)
  | cons fits _ ih =>
      rw [List.map_append, ← Piece.written_rename]
      exact .cons (fits.rename injective) ih

/-- Parsing a renamed text gives the renamed segments, or fails in the same
way. -/
theorem Segment.parse_rename (delimiters : Delimiters) (source : Text) :
    parse (delimiters.rename change) (source.map change) =
      (parse delimiters source).map (List.map (rename change)) := by
  by_cases nonempty : source = []
  · subst nonempty
    rfl
  have renamedNonempty : source.map change ≠ [] := by simpa using nonempty
  rcases decomposes_or_breaksOff delimiters source with
    ⟨pieces, decomposes⟩ | ⟨pieces, stump, breaks⟩
  · rw [parse_of_decomposes nonempty decomposes,
      parse_of_decomposes renamedNonempty (decomposes.rename injective)]
    simp [Except.map, Function.comp_def]
  · rw [parse_of_breaksOff breaks, parse_of_breaksOff (breaks.rename injective), List.length_map]
    rfl

end

/-! ## Delimiters that are the same up to renaming -/

namespace Delimiters

instance : Fintype Role :=
  Fintype.ofList Role.all Role.mem_all

/-- In both choices of delimiters the same roles share a character. -/
def SharedAlike (first second : Delimiters) : Prop :=
  ∀ role other, first.get role = first.get other ↔ second.get role = second.get other

/-- If the same roles share a character, then some renaming takes one choice of
delimiters to the other. -/
theorem SharedAlike.exists_rename {first second : Delimiters} (alike : first.SharedAlike second) :
    ∃ change : Equiv.Perm Char, first.rename change = second := by
  let role (c : Set.range first.get) : Role := c.2.choose
  have get_role (c : Set.range first.get) : first.get (role c) = c := c.2.choose_spec
  have injective : Function.Injective fun c => second.get (role c) := by
    intro c other same
    apply Subtype.ext
    rw [← get_role c, ← get_role other]
    exact (alike _ _).mpr same
  obtain ⟨change, moves⟩ :=
    Equiv.Perm.exists_extending_pair Subtype.val _ Subtype.val_injective injective
  refine ⟨change, ext_get ?_⟩
  intro given
  let c : Set.range first.get := ⟨first.get given, given, rfl⟩
  calc
    (first.rename change).get given = change c := get_rename change first given
    _ = second.get (role c) := moves c
    _ = second.get given := (alike _ _).mp (get_role c)

end Delimiters

/-- Only which characters are delimiters matters, and of these only which are the
same.  Renaming all characters, so that no two become the same, renames what
parsing gives and keeps its faults; and where two choices of delimiters have the
same roles share a character, parsing with the one is parsing with the other, up
to such a renaming. -/
theorem Segment.parse_up_to_renaming :
    (∀ change : Char → Char, change.Injective → ∀ (delimiters : Delimiters) (source : Text),
      parse (delimiters.rename change) (source.map change) =
        (parse delimiters source).map (List.map (rename change))) ∧
    ∀ first second : Delimiters, first.SharedAlike second →
      ∃ change : Equiv.Perm Char, first.rename change = second ∧
        ∀ source : Text, parse second (source.map change) =
          (parse first source).map (List.map (rename change)) := by
  constructor
  · intro change injective delimiters source
    exact parse_rename injective delimiters source
  · intro first second alike
    obtain ⟨change, rfl⟩ := alike.exists_rename
    refine ⟨change, rfl, ?_⟩
    intro source
    exact parse_rename change.injective first source

/-- Two characters exchanged, and delimiters that share characters like the default
ones. -/
theorem Segment.parse_up_to_renaming_default :
    let swap : Equiv.Perm Char := Equiv.swap '\x60' 'a'
    let delimiters : Delimiters :=
      { codeOpen := '|', codeClose := '|', escape := '^', nameOpen := '<', nameClose := '>' }
    (Function.Injective swap ∧
      parse (({} : Delimiters).rename swap) (['\x60', 'b', '\x60', 'a'].map swap) =
        .ok [.code ⟨['b'], none⟩, .literal ['\x60']]) ∧
    ({} : Delimiters).SharedAlike delimiters ∧
      ∃ change : Equiv.Perm Char, ({} : Delimiters).rename change = delimiters ∧
        parse delimiters (['\x60', 'a', '\x60', '('].map change) = .error (.endOfInput 4) := by
  intro swap delimiters
  constructor
  · have parsed := parse_up_to_renaming.1 swap swap.injective {} ['\x60', 'b', '\x60', 'a']
    exact ⟨swap.injective, parsed⟩
  · have alike : ({} : Delimiters).SharedAlike delimiters := by
      intro role other
      cases role <;> cases other <;> decide
    obtain ⟨change, moves, parsed⟩ := parse_up_to_renaming.2 {} delimiters alike
    exact ⟨alike, change, moves, parsed ['\x60', 'a', '\x60', '(']⟩

end Inlay
