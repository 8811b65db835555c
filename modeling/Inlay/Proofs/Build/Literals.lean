import Inlay.Evaluator.Recorded
import Inlay.Proofs.Build.Steps

/-!
# Builds without their literals

What a build asks of its evaluator comes from its fragments alone.  Leaving the
literals out changes none of the calls, nor how the build ends and in which
state; and the text of the build with the literals is what the fragments
contribute one after the other, with the text of each literal put in its place.
How a template is presented, by its joiner and its delimiters, plays no part in
building it.

To see this, a build is taken apart into settling its fragments, which gives one
text for each of them, and filling in the texts of the literals.
-/

namespace Inlay

open Sequence

variable {σ ν ε : Type}

/-! ## Settling fragments -/

namespace Fragment

/-- Settle fragments one after the other, behind others that have published some
values, and collect the texts of their values. -/
def settleAll (evaluator : Evaluator σ ν ε) (scope : Scope) (published : Store ν) :
    List Fragment → EStateM ε σ (List Text)
  | [] => pure []
  | fragment :: later => do
      let value ← fragment.settle evaluator scope published
      modify (fragment.announce evaluator value)
      (evaluator.shown value :: ·) <$>
        settleAll evaluator scope (fragment.note value published) later

variable {evaluator : Evaluator σ ν ε} {scope : Scope} {published : Store ν}
  {fragment : Fragment} {fragments later : List Fragment} {texts : List Text} {state reached : σ}

/-- Settling some fragments gives the text of the first and those of the
others. -/
theorem settleAll_cons_eq_ok_iff :
    settleAll evaluator scope published (fragment :: later) state = .ok texts reached ↔
      ∃ value settled others, fragment.settle evaluator scope published state = .ok value settled ∧
        settleAll evaluator scope (fragment.note value published) later
          (fragment.announce evaluator value settled) = .ok others reached ∧
        evaluator.shown value :: others = texts := by
  rw [settleAll, bind_eq_ok_iff]
  constructor
  · rintro ⟨value, settled, first, goesOn⟩
    obtain ⟨others, laterSettled, same⟩ := map_eq_ok_iff.mp goesOn
    exact ⟨value, settled, others, first, laterSettled, same⟩
  · rintro ⟨value, settled, others, first, laterSettled, same⟩
    exact ⟨value, settled, first, map_eq_ok_iff.mpr ⟨others, laterSettled, same⟩⟩

/-- There is one text for each fragment. -/
theorem length_of_settleAll
    (settled : settleAll evaluator scope published fragments state = .ok texts reached) :
    texts.length = fragments.length := by
  induction fragments generalizing published texts state with
  | nil =>
      cases settled
      rfl
  | cons fragment later ih =>
      obtain ⟨value, _, others, _, laterSettled, rfl⟩ := settleAll_cons_eq_ok_iff.mp settled
      rw [List.length_cons, List.length_cons, ih laterSettled]

/-- The first texts are those of the first fragments. -/
theorem settleAll_take
    (settled : settleAll evaluator scope published fragments state = .ok texts reached)
    (count : Nat) :
    ∃ middle, settleAll evaluator scope published (fragments.take count) state =
      .ok (texts.take count) middle := by
  induction fragments generalizing published texts state count with
  | nil =>
      cases settled
      exact ⟨reached, by rw [List.take_nil, List.take_nil]; rfl⟩
  | cons fragment later ih =>
      cases count with
      | zero => exact ⟨state, rfl⟩
      | succ count =>
          obtain ⟨value, between, others, first, laterSettled, rfl⟩ :=
            settleAll_cons_eq_ok_iff.mp settled
          obtain ⟨middle, front⟩ := ih laterSettled count
          exact ⟨middle, settleAll_cons_eq_ok_iff.mpr ⟨value, between, _, first, front, rfl⟩⟩

end Fragment

namespace Segment

/-! ## Filling in the literals -/

/-- The fragments among the segments. -/
def fragments : List Segment → List Fragment
  | [] => []
  | literal _ :: later => fragments later
  | code fragment :: later => fragment :: fragments later

/-- The segments with a text for each fragment, and its own text for each
literal. -/
def fill : List Segment → List Text → Text
  | [], _ => []
  | literal text :: later, texts => text ++ fill later texts
  | code _ :: later, texts => texts.headD [] ++ fill later texts.tail

variable {evaluator : Evaluator σ ν ε} {scope : Scope} {published : Store ν}

/-- A build settles its fragments and fills in the literals. -/
theorem buildAfter_eq_fill (segments : List Segment) :
    buildAfter evaluator scope published segments =
      fill segments <$> Fragment.settleAll evaluator scope published (fragments segments) := by
  induction segments generalizing published with
  | nil => simp [fragments, Fragment.settleAll, fill]
  | cons segment later ih =>
      cases segment with
      | literal text =>
          rw [buildAfter_literal, ih, fragments]
          simp [fill]
      | code fragment =>
          rw [buildAfter_code, fragments, Fragment.settleAll]
          simp [ih, fill]

/-- Where there are no literals, the texts stand in a row. -/
theorem buildAfter_map_code (inside : List Fragment) :
    buildAfter evaluator scope published (inside.map code) =
      List.flatten <$> Fragment.settleAll evaluator scope published inside := by
  induction inside generalizing published with
  | nil => simp [Fragment.settleAll]
  | cons fragment later ih =>
      rw [List.map_cons, buildAfter_code, Fragment.settleAll]
      simp [ih]

/-- However a build puts its texts together, it settles the same fragments. -/
theorem discard_build_eq (evaluator : Evaluator σ ν ε) (scope : Scope) (segments : List Segment) :
    discard (build evaluator scope segments) =
      discard (build evaluator scope ((fragments segments).map code)) := by
  rw [build, build, buildAfter_eq_fill segments, buildAfter_map_code]
  simp only [Functor.discard, map_const, Function.comp_apply, Functor.map_map]

end Segment

/-- Leaving the literals out of a template changes nothing for the evaluator:
the build ends in the same way and in the same state, and by what is recorded
the same calls are made.  If it succeeds, there is a text for each fragment, the
one that it adds to the build of the fragments in front of it; the build without
the literals gives these texts in a row, and the build with them fills in the
literals.  Other joiners and other delimiters make no difference to a build. -/
theorem Template.build_without_literals (evaluator : Evaluator σ ν ε) (template : Template)
    (state : σ) :
    let inside := (Segment.fragments template.segments).map Segment.code
    let bare := { template with segments := inside }
    discard (template.build evaluator) = discard (bare.build evaluator) ∧
    discard (template.build evaluator.recorded) = discard (bare.build evaluator.recorded) ∧
    (∀ built reached, template.build evaluator state = .ok built reached →
      ∃ texts : List Text, texts.length = inside.length ∧
        (∀ count, ∃ middle,
          Segment.build evaluator template.scope (inside.take count) state =
            .ok (texts.take count).flatten middle) ∧
        bare.build evaluator state = .ok texts.flatten reached ∧
        built = Segment.fill template.segments texts) ∧
    ∀ joiner delimiters, { template with joiner, delimiters }.build evaluator =
        template.build evaluator ∧
      { template with joiner, delimiters }.build evaluator.recorded =
        template.build evaluator.recorded := by
  intro inside bare
  refine ⟨?_, ?_, ?_, ?_⟩
  · exact Segment.discard_build_eq evaluator template.scope template.segments
  · exact Segment.discard_build_eq evaluator.recorded template.scope template.segments
  · intro built reached done
    rw [build, Segment.build, Segment.buildAfter_eq_fill, map_eq_ok_iff] at done
    obtain ⟨texts, settled, rfl⟩ := done
    refine ⟨texts, ?_, ?_, ?_, rfl⟩
    · rw [Fragment.length_of_settleAll settled, List.length_map]
    · intro count
      obtain ⟨middle, front⟩ := Fragment.settleAll_take settled count
      rw [← List.map_take, Segment.build, Segment.buildAfter_map_code]
      exact ⟨middle, map_of_ok front⟩
    · rw [build, Segment.build, Segment.buildAfter_map_code]
      exact map_of_ok settled
  · intro joiner delimiters
    exact ⟨rfl, rfl⟩

end Inlay
