import Inlay.Cursor.Seek
import Inlay.Proofs.Cursor.Scanning

/-!
# A cursor in use

All that can be done with a cursor, as data.  A reading takes something off
what is still to come, and so only goes forward; the other actions ask about
the place or go to another one.  Every action gives an answer or fails, and the
next one begins where it left the cursor.

A cursor is truthful if the location that it remembers, if any, is the one of
its place.  What an action does at a truthful cursor depends on the place
alone, and leaves the cursor truthful.
-/

namespace Inlay.Cursor

open Sequence

variable {α β : Type}

/-! ## Actions -/

/-- What an action answers. -/
inductive Answer where
  | character (found : Option Char)
  | text (text : Text)
  | matched (whole : Bool)
  | position (position : Nat)
  | location (location : Location)

/-- An action that only goes forward.  The condition of `readWhile` is given the
text in front of the character that is in the same run, so it can depend on all
characters that it was asked about. -/
inductive Reading where
  | read
  | readWhile (accepts : Text → Char → Bool)
  | readWhileChar (accepts : Char → Bool)
  | skipBlanks
  | readUntilBlank
  | readUntilAny (stops : List Char)
  | readUntilBlankOrAny (stops : List Char)
  | accept (wanted : Char)
  | expect (wanted : Char)
  | acceptAny (wanted : List Char)
  | expectAny (wanted : List Char)
  | acceptSequence (wanted : Text)
  | expectSequence (wanted : Text)

/-- Anything that can be done with a cursor. -/
inductive Action where
  | take (reading : Reading)
  | peek
  | seek (target : Target)
  | back (amount : UInt64)
  | location
  | consumed

def Reading.scan : Reading → Scan Answer
  | read => (fun c => .character (some c)) <$> Cursor.read
  | readWhile accepts => .text <$> Cursor.readWhile accepts
  | readWhileChar accepts => .text <$> Cursor.readWhileChar accepts
  | skipBlanks => .text <$> Cursor.skipBlanks
  | readUntilBlank => .text <$> Cursor.readUntilBlank
  | readUntilAny stops => .text <$> Cursor.readUntilAny stops
  | readUntilBlankOrAny stops => .text <$> Cursor.readUntilBlankOrAny stops
  | accept wanted => .character <$> Cursor.accept wanted
  | expect wanted => (fun c => .character (some c)) <$> Cursor.expect wanted
  | acceptAny wanted => .character <$> Cursor.acceptAny wanted
  | expectAny wanted => (fun c => .character (some c)) <$> Cursor.expectAny wanted
  | acceptSequence wanted => .matched <$> Cursor.acceptSequence wanted
  | expectSequence wanted => (fun _ => .matched true) <$> Cursor.expectSequence wanted

/-- Asking for the location makes the cursor remember it. -/
def Action.scan : Action → Scan Answer
  | take reading => reading.scan
  | peek => .character <$> Cursor.peek
  | seek target => .position <$> Cursor.seek target
  | back amount => .position <$> Cursor.back amount
  | location => fun cursor => .ok (.location cursor.location) cursor.locate
  | consumed => fun cursor => .ok (.text cursor.consumed) cursor

/-- The answers to actions one after the other, and the cursor behind them. -/
def perform (actions : List Action) : Cursor → List (Except Fault Answer) × Cursor :=
  inTurn (actions.map Action.scan)

/-- The answers to readings one after the other, and the cursor behind them. -/
def readOn (readings : List Reading) : Cursor → List (Except Fault Answer) × Cursor :=
  inTurn (readings.map Reading.scan)

/-- The text behind an answer to a reading: the character, the text that was
read, or the sequence that was there. -/
def Reading.text : Reading → Answer → Text
  | acceptSequence wanted, .matched true => wanted
  | expectSequence wanted, .matched true => wanted
  | _, .character found => found.toList
  | _, .text run => run
  | _, _ => []

/-- The text that a reading with this outcome has taken; none if it failed. -/
def Reading.taken (reading : Reading) : Except Fault Answer → Text
  | .ok answer => reading.text answer
  | .error _ => []

/-! ## Places -/

/-- What the cursor remembers is the location of its place. -/
def Truthful (cursor : Cursor) : Prop :=
  ∀ location ∈ cursor.located, location = Location.behind cursor.before

theorem truthful_start (source : Text) : (start source).Truthful := by
  simp [Truthful, start]

theorem truthful_moveTo (cursor : Cursor) (position : Nat) :
    (cursor.moveTo position).Truthful := by
  simp [Truthful, moveTo]

theorem Truthful.location_eq {cursor : Cursor} (truthful : cursor.Truthful) :
    cursor.location = Location.behind cursor.before := by
  cases remembered : cursor.located with
  | none => simp [location, remembered]
  | some known => simpa [location, remembered] using truthful known remembered

/-- Truthful cursors at the same place of the same source. -/
structure SamePlace (cursor other : Cursor) : Prop where
  before : cursor.before = other.before
  after : cursor.after = other.after
  truthful : cursor.Truthful
  otherTruthful : other.Truthful

theorem Truthful.samePlace {cursor : Cursor} (truthful : cursor.Truthful) :
    SamePlace cursor cursor :=
  ⟨rfl, rfl, truthful, truthful⟩

namespace SamePlace

variable {cursor other : Cursor}

theorem length_eq (same : SamePlace cursor other) : cursor.length = other.length := by
  simp only [length, same.before, same.after]

theorem source_eq (same : SamePlace cursor other) : cursor.source = other.source := by
  simp only [source, same.before, same.after]

theorem position_eq (same : SamePlace cursor other) : cursor.position = other.position := by
  simp only [position, same.before]

theorem location_eq (same : SamePlace cursor other) : cursor.location = other.location := by
  rw [same.truthful.location_eq, same.otherTruthful.location_eq, same.before]

theorem pass (same : SamePlace cursor other) (run rest : Text) :
    SamePlace (cursor.pass run rest) (other.pass run rest) := by
  cases run with
  | nil => exact same
  | cons c run => exact ⟨by simp [same.before], rfl, by simp [Truthful], by simp [Truthful]⟩

theorem moveTo (same : SamePlace cursor other) (position : Nat) :
    SamePlace (cursor.moveTo position) (other.moveTo position) :=
  ⟨by simp [Cursor.moveTo, same.source_eq], by simp [Cursor.moveTo, same.source_eq],
    truthful_moveTo cursor position, truthful_moveTo other position⟩

theorem locate (same : SamePlace cursor other) : SamePlace cursor.locate other.locate :=
  ⟨same.before, same.after, by simp [Truthful, Cursor.locate, same.truthful.location_eq],
    by simp [Truthful, Cursor.locate, same.otherTruthful.location_eq]⟩

theorem forget (same : SamePlace cursor other) :
    SamePlace { cursor with located := none } { other with located := none } :=
  ⟨same.before, same.after, by simp [Truthful], by simp [Truthful]⟩

end SamePlace

/-! ## What an action does depends on the place -/

/-- At the same place the scan does the same, and leaves the cursors at the
same place again. -/
def Positional (scan : Scan α) : Prop :=
  ∀ ⦃cursor other : Cursor⦄, SamePlace cursor other → Alike SamePlace (scan cursor) (scan other)

namespace Positional

theorem map (change : α → β) {scan : Scan α} (positional : Positional scan) :
    Positional (change <$> scan) :=
  fun _ _ same => (positional same).map change

theorem pure (value : α) : Positional (pure value : Scan α) :=
  fun _ _ same => .ok value same

theorem bind {scan : Scan α} {next : α → Scan β} (positional : Positional scan)
    (later : ∀ value, Positional (next value)) : Positional (scan >>= next) :=
  fun _ _ same => (positional same).bind fun value _ _ reached => later value reached

theorem atomically {scan : Scan α} (positional : Positional scan) :
    Positional (Cursor.atomically scan) := by
  intro cursor other same
  have alike := positional same
  simp only [Cursor.atomically]
  generalize scan cursor = outcome at alike
  generalize scan other = otherOutcome at alike
  cases alike with
  | ok value reached => exact .ok value reached
  -- the place reached by the failing scan is given up, so only this one counts
  | error fault _ => exact .error fault same.forget

theorem peek : Positional peek := by
  intro cursor other same
  rw [Cursor.peek, Cursor.peek, same.after]
  exact .ok _ same

theorem read : Positional read := by
  intro cursor other same
  rw [Cursor.read, Cursor.read, same.after, same.length_eq]
  cases other.after with
  | nil => exact .error _ same
  | cons c rest => exact .ok c (same.pass [c] rest)

theorem refuse : Positional (refuse : Scan α) := by
  intro cursor other same
  rw [Cursor.refuse, Cursor.refuse, same.after, same.length_eq, same.location_eq]
  cases other.after with
  | nil => exact .error _ same
  | cons c rest => exact .error _ same.locate

theorem acceptAny (wanted : List Char) : Positional (acceptAny wanted) := by
  intro cursor other same
  rw [Cursor.acceptAny, Cursor.acceptAny, same.after]
  cases other.after with
  | nil => exact .ok none same
  | cons c rest =>
      by_cases member : c ∈ wanted
      · simp only [if_pos member]
        exact .ok (some c) (same.pass [c] rest)
      · simp only [if_neg member]
        exact .ok none same

theorem expectAny (wanted : List Char) : Positional (expectAny wanted) := by
  refine (acceptAny wanted).bind fun found => ?_
  cases found with
  | none => exact refuse
  | some c => exact pure c

theorem expectSequence (wanted : Text) : Positional (expectSequence wanted) := by
  apply atomically
  induction wanted with
  | nil => exact pure ()
  | cons c wanted ih => exact ((expectAny [c]).map _).bind fun _ => ih

theorem acceptSequence (wanted : Text) : Positional (acceptSequence wanted) := by
  rintro ⟨before, after, located⟩ ⟨before', after', located'⟩ same
  obtain rfl : after = after' := same.after
  simp only [Cursor.acceptSequence]
  cases wanted.isPrefixOf? after with
  | none => exact .ok false same.forget
  | some rest => exact .ok true (same.pass wanted rest)

theorem readWhile (accepts : Text → Char → Bool) : Positional (readWhile accepts) := by
  intro cursor other same
  rw [Cursor.readWhile, Cursor.readWhile, same.after]
  exact .ok _ (same.pass _ _)

theorem readWhileChar (accepts : Char → Bool) : Positional (readWhileChar accepts) := by
  rw [readWhileChar_eq_readWhile]
  exact readWhile _

theorem seek (target : Target) : Positional (seek target) := by
  intro cursor other same
  have aims : cursor.aim target = other.aim target := by
    cases target <;> simp only [aim, same.position_eq, same.length_eq]
  simp only [Cursor.seek, aims, same.length_eq]
  split
  · exact .ok _ (same.moveTo _)
  · exact .error _ same

end Positional

theorem Reading.positional (reading : Reading) : Positional reading.scan := by
  cases reading with
  | read => exact .map _ .read
  | readWhile accepts => exact .map _ (.readWhile accepts)
  | readWhileChar accepts => exact .map _ (.readWhileChar accepts)
  | skipBlanks => exact .map _ (.readWhileChar _)
  | readUntilBlank => exact .map _ (.readWhileChar _)
  | readUntilAny stops => exact .map _ (.readWhileChar _)
  | readUntilBlankOrAny stops => exact .map _ (.readWhileChar _)
  | accept wanted => exact .map _ (.acceptAny [wanted])
  | expect wanted => exact .map _ (.expectAny [wanted])
  | acceptAny wanted => exact .map _ (.acceptAny wanted)
  | expectAny wanted => exact .map _ (.expectAny wanted)
  | acceptSequence wanted => exact .map _ (.acceptSequence wanted)
  | expectSequence wanted => exact .map _ (.expectSequence wanted)

theorem Action.positional (action : Action) : Positional action.scan := by
  cases action with
  | take reading => exact reading.positional
  | peek => exact .map _ .peek
  | seek target => exact .map _ (.seek target)
  | back amount => exact .map _ (.seek _)
  | location =>
      intro cursor other same
      simp only [scan, same.location_eq]
      exact .ok _ same.locate
  | consumed =>
      intro cursor other same
      simp only [scan, Cursor.consumed, same.before]
      exact .ok _ same

/-- Actions in turn at the same place have the same answers, and end at the
same place. -/
theorem SamePlace.perform {cursor other : Cursor} (same : SamePlace cursor other)
    (actions : List Action) :
    (perform actions cursor).1 = (perform actions other).1 ∧
      SamePlace (Cursor.perform actions cursor).2 (Cursor.perform actions other).2 := by
  apply inTurn_alike _ same
  intro scan member
  obtain ⟨action, _, rfl⟩ := List.mem_map.mp member
  exact fun _ _ => @action.positional _ _

/-- Actions leave a truthful cursor truthful. -/
theorem Truthful.perform {cursor : Cursor} (truthful : cursor.Truthful)
    (actions : List Action) : (perform actions cursor).2.Truthful :=
  (truthful.samePlace.perform actions).2.truthful

theorem readOn_eq_perform (readings : List Reading) :
    readOn readings = perform (readings.map .take) := by
  rw [readOn, perform, List.map_map]
  rfl

theorem SamePlace.readOn {cursor other : Cursor} (same : SamePlace cursor other)
    (readings : List Reading) :
    (readOn readings cursor).1 = (readOn readings other).1 ∧
      SamePlace (Cursor.readOn readings cursor).2 (Cursor.readOn readings other).2 := by
  rw [readOn_eq_perform]
  exact same.perform _

end Inlay.Cursor
