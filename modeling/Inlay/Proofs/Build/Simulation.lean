import Inlay.Proofs.Build.Steps

/-!
# Builds with two evaluators

Two evaluators may do the same in states that are related but not equal: they
give the same values or the same errors, and leave states that are related
again.  Then a build with the one is like the build with the other, by
induction on the segments.  Looking up has to be alike only in the scope of the
evaluator, since in its own scope a build never looks anything up.

A property that every call of one evaluator preserves is a special case, with
the evaluator beside itself.
-/

namespace Inlay

open Sequence

variable {σ τ ν ε : Type} {related : σ → τ → Prop}

/-! ## Evaluators -/

/-- In related states, the second evaluator does what the first one does. -/
structure Evaluator.Simulates (scope : Scope) (related : σ → τ → Prop)
    (evaluator : Evaluator σ ν ε) (other : Evaluator τ ν ε) : Prop where
  execute : ∀ code {state otherState}, related state otherState →
    Alike related (evaluator.execute code state) (other.execute code otherState)
  lookup : scope = .evaluator → ∀ name {state otherState}, related state otherState →
    (evaluator.lookup name state).1 = (other.lookup name otherState).1 ∧
      related (evaluator.lookup name state).2 (other.lookup name otherState).2
  publish : ∀ name value {state otherState}, related state otherState →
    related (evaluator.publish name value state) (other.publish name value otherState)
  shown : evaluator.shown = other.shown
  normalizes : ∀ {state otherState}, related state otherState →
    evaluator.normalizes state = other.normalizes otherState

namespace Evaluator.Simulates

variable {scope : Scope} {evaluator : Evaluator σ ν ε} {other : Evaluator τ ν ε}
  {state : σ} {otherState : τ}

theorem evaluate (simulates : Simulates scope related evaluator other)
    (start : related state otherState) (fragment : Fragment) :
    Alike related (fragment.evaluate evaluator state) (fragment.evaluate other otherState) := by
  rw [fragment.evaluate_apply, fragment.evaluate_apply, simulates.normalizes start]
  exact simulates.execute _ start

theorem resolve (simulates : Simulates .evaluator related evaluator other)
    (start : related state otherState) (fragment : Fragment) :
    Alike related (fragment.resolve evaluator state) (fragment.resolve other otherState) := by
  cases named : fragment.name with
  | none =>
      rw [Fragment.resolve_of_anonymous named, Fragment.resolve_of_anonymous named]
      exact simulates.evaluate start fragment
  | some name =>
      obtain ⟨sameValue, lookedRelated⟩ := simulates.lookup rfl name start
      rcases looks : evaluator.lookup name state with ⟨value?, looked⟩
      rcases otherLooks : other.lookup name otherState with ⟨otherValue?, otherLooked⟩
      rw [looks, otherLooks] at sameValue lookedRelated
      cases sameValue
      cases value? with
      | none =>
          rw [Fragment.resolve_of_lookup_none named looks,
            Fragment.resolve_of_lookup_none named otherLooks]
          exact simulates.evaluate lookedRelated fragment
      | some value =>
          rw [Fragment.resolve_of_lookup_some named looks,
            Fragment.resolve_of_lookup_some named otherLooks]
          exact .ok value lookedRelated

theorem settle (simulates : Simulates scope related evaluator other)
    (start : related state otherState) (published : Store ν) (fragment : Fragment) :
    Alike related (fragment.settle evaluator scope published state)
      (fragment.settle other scope published otherState) := by
  cases scope with
  | evaluator => exact simulates.resolve start fragment
  | build =>
      cases holds : fragment.publishedName.bind published.get? with
      | none =>
          rw [Fragment.settle_build_of_none holds, Fragment.settle_build_of_none holds]
          exact simulates.evaluate start fragment
      | some value =>
          rw [Fragment.settle_build_of_some holds, Fragment.settle_build_of_some holds]
          exact .ok value start

theorem announce (simulates : Simulates scope related evaluator other)
    (start : related state otherState) (fragment : Fragment) (value : ν) :
    related (fragment.announce evaluator value state)
      (fragment.announce other value otherState) := by
  cases named : fragment.publishedName with
  | none => simpa only [Fragment.announce, named] using start
  | some name => simpa only [Fragment.announce, named] using simulates.publish name value start

/-- Whole builds are alike, by induction on the segments. -/
theorem buildAfter (simulates : Simulates scope related evaluator other)
    (start : related state otherState) (published : Store ν) (segments : List Segment) :
    Alike related (Segment.buildAfter evaluator scope published segments state)
      (Segment.buildAfter other scope published segments otherState) := by
  induction segments generalizing published state otherState with
  | nil => exact .ok [] start
  | cons segment later ih =>
      cases segment with
      | literal text =>
          rw [Segment.buildAfter_literal, Segment.buildAfter_literal]
          exact (ih start published).map _
      | code fragment =>
          have settled := simulates.settle start published fragment
          generalize ran : fragment.settle evaluator scope published state = outcome at settled
          generalize otherRan : fragment.settle other scope published otherState = otherOutcome
            at settled
          cases settled with
          | error error reached =>
              rw [Segment.buildAfter_code_of_error ran, Segment.buildAfter_code_of_error otherRan]
              exact .error error reached
          | ok value reached =>
              rw [Segment.buildAfter_code_of_ok ran, Segment.buildAfter_code_of_ok otherRan,
                simulates.shown]
              exact (ih (simulates.announce reached fragment value) _).map _

theorem build {template : Template} (simulates : Simulates template.scope related evaluator other)
    (start : related state otherState) :
    Alike related (template.build evaluator state) (template.build other otherState) :=
  simulates.buildAfter start .empty template.segments

end Evaluator.Simulates

/-! ## Preserved properties -/

/-- The calls of the evaluator preserve a property of its states. -/
structure Evaluator.Preserves (scope : Scope) (kept : σ → Prop) (evaluator : Evaluator σ ν ε) :
    Prop where
  execute : ∀ code {state}, kept state → kept (stateLeft (evaluator.execute code state))
  lookup : scope = .evaluator → ∀ name {state}, kept state → kept (evaluator.lookup name state).2
  publish : ∀ name value {state}, kept state → kept (evaluator.publish name value state)

namespace Evaluator.Preserves

variable {scope : Scope} {kept : σ → Prop} {evaluator : Evaluator σ ν ε}

/-- An evaluator beside itself keeps to equal states with the property. -/
theorem simulates (preserves : Preserves scope kept evaluator) :
    Simulates scope (fun state other => state = other ∧ kept state) evaluator evaluator where
  execute := by
    rintro code state _ ⟨rfl, start⟩
    exact alike_iff.mpr ⟨rfl, rfl, preserves.execute code start⟩
  lookup := by
    rintro asks name state _ ⟨rfl, start⟩
    exact ⟨rfl, rfl, preserves.lookup asks name start⟩
  publish := by
    rintro name value state _ ⟨rfl, start⟩
    exact ⟨rfl, preserves.publish name value start⟩
  shown := rfl
  normalizes := by
    rintro state _ ⟨rfl, -⟩
    rfl

theorem build {template : Template} (preserves : Preserves template.scope kept evaluator)
    {state : σ} (start : kept state) : kept (stateLeft (template.build evaluator state)) :=
  (alike_iff.mp (preserves.simulates.build ⟨rfl, start⟩)).2.2

end Evaluator.Preserves

end Inlay
