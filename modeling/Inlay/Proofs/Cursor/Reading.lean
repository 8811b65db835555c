import Inlay.Proofs.Cursor.Actions
import Inlay.Proofs.Cursor.Seeking
import Mathlib.Data.List.Basic

/-!
# Readings cover the source

A reading takes the text of its answer off what is still to come, and nothing
when it fails or finds nothing.  So the texts taken by readings in a row are
what lies between the places in front of them and behind them.

Going back over that text leads to the place in front of it.  Readings depend
on the place alone, and so they have the same answers there again.
-/

namespace Inlay.Cursor

open Sequence

variable {α β : Type}

/-! ## Further on -/

/-- What is still to come begins at the position. -/
theorem after_eq_drop (cursor : Cursor) : cursor.after = cursor.source.drop cursor.position := by
  rw [source, position, List.drop_left' List.length_reverse]

theorem getElem?_source_position (cursor : Cursor) :
    cursor.source[cursor.position]? = cursor.after.head? := by
  have behind : cursor.before.reverse.length ≤ cursor.position :=
    Nat.le_of_eq List.length_reverse
  rw [source, List.getElem?_append_right behind, List.length_reverse, position, Nat.sub_self,
    List.head?_eq_getElem?]

/-- Further on in the same source, behind a text that came next. -/
structure Reads (cursor : Cursor) (run : Text) (reached : Cursor) : Prop where
  before : reached.before = run.reverse ++ cursor.before
  after : cursor.after = run ++ reached.after

namespace Reads

variable {cursor reached last : Cursor} {run later rest : Text}

theorem refl (cursor : Cursor) : Reads cursor [] cursor :=
  ⟨rfl, rfl⟩

theorem trans (first : Reads cursor run reached) (second : Reads reached later last) :
    Reads cursor (run ++ later) last where
  before := by
    rw [second.before, first.before, List.reverse_append, List.append_assoc]
  after := by
    rw [first.after, second.after, List.append_assoc]

theorem pass (comes : cursor.after = run ++ rest) : Reads cursor run (cursor.pass run rest) := by
  cases run with
  | nil => exact .refl cursor
  | cons c run => exact ⟨rfl, comes⟩

theorem source_eq (reads : Reads cursor run reached) : reached.source = cursor.source := by
  simp [source, reads.before, reads.after]

theorem position_eq (reads : Reads cursor run reached) :
    reached.position = cursor.position + run.length := by
  simp [position, reads.before, Nat.add_comm]

/-- Behind everything that was to come there is the end. -/
theorem at_end (reads : Reads cursor cursor.after reached) :
    reached.after = [] ∧ reached.position = cursor.length := by
  constructor
  · exact List.self_eq_append_right.mp reads.after
  · exact reads.position_eq

/-- What was read is the part of the source between the two positions. -/
theorem run_eq (reads : Reads cursor run reached) :
    run = (cursor.source.take reached.position).drop cursor.position := by
  rw [reads.position_eq, List.drop_take, Nat.add_sub_cancel_left, ← after_eq_drop, reads.after,
    List.take_left]

end Reads

/-! ## What the scans take -/

/-- A wanted character that comes next is accepted, and otherwise nothing
happens. -/
theorem acceptAny_cases (wanted : List Char) (cursor : Cursor) :
    (∃ c rest, cursor.after = c :: rest ∧ c ∈ wanted ∧
      acceptAny wanted cursor = .ok (some c) (cursor.pass [c] rest)) ∨
    acceptAny wanted cursor = .ok none cursor := by
  cases comes : cursor.after with
  | nil => exact .inr (by simp only [acceptAny, comes])
  | cons c rest =>
      by_cases member : c ∈ wanted
      · exact .inl ⟨c, rest, rfl, member, by simp only [acceptAny, comes, if_pos member]⟩
      · exact .inr (by simp only [acceptAny, comes, if_neg member])

theorem exists_refuse_eq_error (cursor : Cursor) :
    ∃ fault reached, (refuse : Scan α) cursor = .error fault reached ∧
      Reads cursor [] reached := by
  cases comes : cursor.after with
  | nil =>
      exact ⟨.endOfInput cursor.length, cursor, by simp only [refuse, comes], .refl cursor⟩
  | cons c rest =>
      exact ⟨.unexpected c cursor.location.line cursor.location.column, cursor.locate,
        by simp only [refuse, comes], rfl, rfl⟩

/-- A wanted character that comes next is taken, and otherwise the place stays
as it is. -/
theorem expectAny_cases (wanted : List Char) (cursor : Cursor) :
    (∃ c rest, cursor.after = c :: rest ∧ c ∈ wanted ∧
      expectAny wanted cursor = .ok c (cursor.pass [c] rest)) ∨
    ∃ fault reached, expectAny wanted cursor = .error fault reached ∧
      Reads cursor [] reached := by
  rcases acceptAny_cases wanted cursor with ⟨c, rest, comes, member, accepts⟩ | nothing
  · exact .inl ⟨c, rest, comes, member, bind_of_ok accepts⟩
  · obtain ⟨fault, reached, refused, reads⟩ := exists_refuse_eq_error cursor
    exact .inr ⟨fault, reached, (bind_of_ok nothing).trans refused, reads⟩

/-- What a scan has taken, judging from its outcome: the text of the value, or
nothing when it failed. -/
inductive Consumed (text : α → Text) (cursor : Cursor) : EStateM.Result Fault Cursor α → Prop
  | ok {value : α} {reached : Cursor} (reads : Reads cursor (text value) reached) :
      Consumed text cursor (.ok value reached)
  | error {fault : Fault} {reached : Cursor} (reads : Reads cursor [] reached) :
      Consumed text cursor (.error fault reached)

/-- The scan always takes the text of the value that it gives. -/
def Consumes (text : α → Text) (scan : Scan α) : Prop :=
  ∀ cursor, Consumed text cursor (scan cursor)

namespace Consumes

theorem map {text : β → Text} {change : α → β} {scan : Scan α}
    (consumes : Consumes (fun value => text (change value)) scan) :
    Consumes text (change <$> scan) := by
  intro cursor
  have consumed := consumes cursor
  generalize ran : scan cursor = outcome at consumed
  cases consumed with
  | ok reads => exact map_of_ok ran ▸ .ok reads
  | error reads => exact map_of_error ran ▸ .error reads

theorem read : Consumes (fun c => [c]) read := by
  intro cursor
  rw [Cursor.read]
  split
  · exact .error (.refl cursor)
  · rename_i comes
    exact .ok (.pass comes)

theorem acceptAny (wanted : List Char) : Consumes Option.toList (acceptAny wanted) := by
  intro cursor
  rcases acceptAny_cases wanted cursor with ⟨c, rest, comes, _, accepts⟩ | nothing
  · exact accepts ▸ .ok (.pass comes)
  · exact nothing ▸ .ok (.refl cursor)

theorem expectAny (wanted : List Char) : Consumes (fun c => [c]) (expectAny wanted) := by
  intro cursor
  rcases expectAny_cases wanted cursor with ⟨c, rest, comes, _, gives⟩ | ⟨_, _, fails, reads⟩
  · exact gives ▸ .ok (.pass comes)
  · exact fails ▸ .error reads

theorem readWhile (accepts : Text → Char → Bool) : Consumes id (readWhile accepts) :=
  fun _ => .ok (.pass (splitRun_append accepts [] _).symm)

theorem readWhileChar (accepts : Char → Bool) : Consumes id (readWhileChar accepts) := by
  rw [readWhileChar_eq_readWhile]
  exact readWhile _

theorem acceptSequence (wanted : Text) :
    Consumes (fun whole => (Reading.acceptSequence wanted).text (.matched whole))
      (acceptSequence wanted) := by
  intro cursor
  rw [Cursor.acceptSequence]
  split
  · rename_i comes
    exact .ok (.pass (List.isPrefixOf?_eq_some_iff_append_eq.mp comes).symm)
  · exact .ok ⟨rfl, rfl⟩

/-- Expecting characters one by one takes all of them if none is missing. -/
theorem reads_of_forM_expect {wanted : Text} {cursor reached : Cursor}
    (gives : wanted.forM (fun c => discard (expect c)) cursor = .ok () reached) :
    Reads cursor wanted reached := by
  induction wanted generalizing cursor with
  | nil =>
      cases gives
      exact .refl _
  | cons c wanted ih =>
      obtain ⟨_, between, first, others⟩ := bind_eq_ok_iff.mp gives
      obtain ⟨d, first, -⟩ := map_eq_ok_iff.mp first
      rw [expect] at first
      rcases expectAny_cases [c] cursor with ⟨c', rest, comes, member, gives⟩ | ⟨_, _, fails, _⟩
      · obtain rfl := List.mem_singleton.mp member
        rw [gives] at first
        cases first
        exact (Reads.pass comes).trans (ih others)
      · rw [fails] at first
        contradiction

theorem expectSequence (wanted : Text) : Consumes (fun _ => wanted) (expectSequence wanted) := by
  intro cursor
  rw [Cursor.expectSequence, atomically]
  split
  · rename_i gives
    exact .ok (reads_of_forM_expect gives)
  · exact .error ⟨rfl, rfl⟩

end Consumes

/-- Readings take the text behind their answers, and failing ones nothing. -/
theorem Reading.consumes (reading : Reading) : Consumes reading.text reading.scan := by
  cases reading with
  | read => exact .map .read
  | readWhile accepts => exact .map (.readWhile accepts)
  | readWhileChar accepts => exact .map (.readWhileChar accepts)
  | skipBlanks => exact .map (.readWhileChar _)
  | readUntilBlank => exact .map (.readWhileChar _)
  | readUntilAny stops => exact .map (.readWhileChar _)
  | readUntilBlankOrAny stops => exact .map (.readWhileChar _)
  | accept wanted => exact .map (.acceptAny [wanted])
  | expect wanted => exact .map (.expectAny [wanted])
  | acceptAny wanted => exact .map (.acceptAny wanted)
  | expectAny wanted => exact .map (.expectAny wanted)
  | acceptSequence wanted => exact .map (.acceptSequence wanted)
  | expectSequence wanted => exact .map (.expectSequence wanted)

theorem Reading.reads (reading : Reading) (cursor : Cursor) :
    Reads cursor (reading.taken (answer (reading.scan cursor)))
      (stateLeft (reading.scan cursor)) := by
  have consumed := reading.consumes cursor
  generalize reading.scan cursor = outcome at consumed
  cases consumed with
  | ok reads => exact reads
  | error reads => exact reads

/-! ## Actions in turn -/

theorem source_seek (target : Target) (cursor : Cursor) :
    (stateLeft (seek target cursor)).source = cursor.source := by
  rcases seek_cases target cursor with ⟨position, _, goes⟩ | stays
  · rw [goes]
    exact source_moveTo cursor position
  · rw [stays]
    rfl

theorem Action.source_eq (action : Action) (cursor : Cursor) :
    (stateLeft (action.scan cursor)).source = cursor.source := by
  cases action with
  | take reading => exact (reading.reads cursor).source_eq
  | peek => rfl
  | seek target => rw [scan, stateLeft_map, source_seek]
  | back amount => rw [scan, stateLeft_map, Cursor.back, source_seek]
  | location => exact source_locate cursor
  | consumed => rfl

/-- Actions in turn keep the source. -/
theorem source_perform (actions : List Action) (cursor : Cursor) :
    (perform actions cursor).2.source = cursor.source := by
  refine inTurn_preserves (fun reached : Cursor => reached.source = cursor.source) ?_ rfl
  intro scan member reached kept
  obtain ⟨action, _, rfl⟩ := List.mem_map.mp member
  rw [action.source_eq, kept]

/-- The texts that readings with these outcomes have taken. -/
def takenBy (readings : List Reading) (outcomes : List (Except Fault Answer)) : List Text :=
  List.zipWith Reading.taken readings outcomes

/-- The texts that are taken in turn make up what is read. -/
theorem reads_readOn (readings : List Reading) (cursor : Cursor) :
    Reads cursor (takenBy readings (readOn readings cursor).1).flatten
      (readOn readings cursor).2 := by
  induction readings generalizing cursor with
  | nil => exact .refl cursor
  | cons reading later ih => exact (reading.reads cursor).trans (ih _)

/-! ## Going back -/

/-- Going back inside the source leads to the position that many characters in
front. -/
theorem back_eq_ok {cursor : Cursor} {amount : Nat} (inside : amount ≤ cursor.position)
    (short : cursor.length ≤ Int64.maxValue.toInt) :
    back (UInt64.ofNat amount) cursor =
      .ok (cursor.position - amount) (cursor.moveTo (cursor.position - amount)) := by
  have greatest := maxValue_eq
  have bound := cursor.position_le_length
  have count : (UInt64.ofNat amount).toNat = amount :=
    UInt64.toNat_ofNat_of_lt (by simp only [UInt64.size]; omega)
  have fits : (UInt64.ofNat amount).toNat ≤ cursor.position := by rwa [count]
  have reached := back_of_inside short fits
  rwa [count] at reached

/-- A position of the source tells the place. -/
theorem SamePlace.of_source_eq {cursor other : Cursor} (truthful : cursor.Truthful)
    (otherTruthful : other.Truthful) (source : cursor.source = other.source)
    (position : cursor.position = other.position) : SamePlace cursor other := by
  have reversed : cursor.before.reverse.length = other.before.reverse.length := by
    rw [List.length_reverse, List.length_reverse]
    exact position
  obtain ⟨before, after⟩ := List.append_inj source reversed
  exact ⟨List.reverse_injective before, after, truthful, otherTruthful⟩

/-- Behind readings one can go back to the place where they began. -/
theorem Truthful.readOn_again {cursor : Cursor} (truthful : cursor.Truthful)
    (short : cursor.length ≤ Int64.maxValue.toInt) (readings : List Reading) :
    ∃ again, back (UInt64.ofNat ((readOn readings cursor).2.position - cursor.position))
        (readOn readings cursor).2 = .ok cursor.position again ∧
      SamePlace again cursor := by
  have reads := reads_readOn readings cursor
  generalize (readOn readings cursor).2 = reached at reads
  have forward : cursor.position ≤ reached.position := by
    rw [reads.position_eq]
    exact Nat.le_add_right _ _
  have length_eq : reached.length = cursor.length := by
    rw [← length_source, reads.source_eq, length_source]
  have back_ok := back_eq_ok (Nat.sub_le reached.position cursor.position) (length_eq ▸ short)
  rw [Nat.sub_sub_self forward] at back_ok
  refine ⟨_, back_ok, .of_source_eq (truthful_moveTo reached _) truthful ?_ ?_⟩
  · rw [source_moveTo, reads.source_eq]
  · exact position_moveTo (length_eq ▸ cursor.position_le_length)

/-! ## Reading loses and repeats nothing -/

/-- At whatever place actions have led to, the texts taken by readings in a row
are the part of the source between the positions in front of them and behind
them.  From there one can go back by as many characters, and the same readings
have the same outcomes again.  Offsets are signed words, and the length of a
source is one. -/
theorem reading_covers_source (source : Text) (short : source.length ≤ Int64.maxValue.toInt)
    (actions : List Action) (readings : List Reading) :
    let cursor := (perform actions (start source)).2
    let outcomes := (readOn readings cursor).1
    let reached := (readOn readings cursor).2
    cursor.position ≤ reached.position ∧
      (takenBy readings outcomes).flatten =
        (source.take reached.position).drop cursor.position ∧
      ∃ again, back (UInt64.ofNat (reached.position - cursor.position)) reached =
          .ok cursor.position again ∧
        again.source = source ∧ again.position = cursor.position ∧
        (readOn readings again).1 = outcomes ∧
        (readOn readings again).2.position = reached.position := by
  intro cursor outcomes reached
  have kept : cursor.source = source := by rw [source_perform, source_start]
  have truthful : cursor.Truthful := (truthful_start source).perform actions
  have reads := reads_readOn readings cursor
  have covers := reads.run_eq
  rw [kept] at covers
  have bound : cursor.length ≤ Int64.maxValue.toInt := by rwa [← length_source, kept]
  obtain ⟨again, back_ok, same⟩ := truthful.readOn_again bound readings
  obtain ⟨sameOutcomes, samePlace⟩ := same.readOn readings
  refine ⟨?_, covers, again, back_ok, same.source_eq.trans kept, same.position_eq,
    sameOutcomes, samePlace.position_eq⟩
  rw [reads.position_eq]
  exact Nat.le_add_right _ _

/-- A sequence that breaks off at its last character is given back, and a
failing expectation takes nothing either. -/
theorem reading_covers_source_broken_off :
    let source := ['a', 'a', 'b', '\n', 'c']
    let cursor := (perform [.take .read, .location] (start source)).2
    let readings : List Reading := [.expectSequence ['a', 'b', 'c'], .acceptSequence ['a', 'b'],
      .expect 'x', .readWhile fun seen c => c ∉ seen, .read]
    let reached := (readOn readings cursor).2
    source.length ≤ Int64.maxValue.toInt ∧
      (readOn readings cursor).1 = [.error (.unexpected '\n' 1 3), .ok (.matched true),
        .error (.unexpected '\n' 1 3), .ok (.text ['\n', 'c']), .error (.endOfInput 5)] ∧
      takenBy readings (readOn readings cursor).1 = [[], ['a', 'b'], [], ['\n', 'c'], []] ∧
      ∃ again, back 4 reached = .ok 1 again ∧
        (readOn readings again).1 = (readOn readings cursor).1 := by
  intro source cursor readings reached
  obtain ⟨_, _, again, back_ok, _, _, same, _⟩ := reading_covers_source source (by decide)
    [.take .read, .location] readings
  exact ⟨by decide, rfl, rfl, again, back_ok, same⟩

end Inlay.Cursor
