import Inlay.Evaluator.Recorded
import Inlay.Proofs.Build.Simulation

/-!
# Builds seen through a view of the state

A view takes the states of one evaluator to those of another, so that whatever
the first does is seen as what the second does.  Then a build with the first
is seen as the build with the second: same text or same error, and the state
that is left is seen as the other.  Forgetting the record of the calls that a
build makes is such a view.
-/

namespace Inlay

open Sequence

variable {σ τ ν ε α : Type}

/-- An outcome whose state is seen through a view. -/
def Sequence.seen (view : σ → τ) : EStateM.Result ε σ α → EStateM.Result ε τ α
  | .ok value state => .ok value (view state)
  | .error error state => .error error (view state)

/-- Through the view, the first evaluator does what the second does. -/
structure Evaluator.SeenAs (evaluator : Evaluator σ ν ε) (other : Evaluator τ ν ε)
    (view : σ → τ) : Prop where
  execute : ∀ code state,
    other.execute code (view state) = seen view (evaluator.execute code state)
  lookup : ∀ name state, other.lookup name (view state) =
    ((evaluator.lookup name state).1, view (evaluator.lookup name state).2)
  publish : ∀ name value state,
    other.publish name value (view state) = view (evaluator.publish name value state)
  shown : other.shown = evaluator.shown
  normalizes : ∀ state, other.normalizes (view state) = evaluator.normalizes state

variable {view : σ → τ}

@[simp]
theorem Sequence.answer_seen (outcome : EStateM.Result ε σ α) :
    answer (seen view outcome) = answer outcome := by
  cases outcome <;> rfl

@[simp]
theorem Sequence.stateLeft_seen (outcome : EStateM.Result ε σ α) :
    stateLeft (seen view outcome) = view (stateLeft outcome) := by
  cases outcome <;> rfl

/-- Outcomes are alike for a view exactly if the one is seen as the other. -/
theorem Sequence.alike_view_iff {outcome : EStateM.Result ε σ α}
    {otherOutcome : EStateM.Result ε τ α} :
    Alike (fun state other => view state = other) outcome otherOutcome ↔
      otherOutcome = seen view outcome := by
  rw [alike_iff]
  constructor
  · rintro ⟨same, reached⟩
    apply ext
    · rw [answer_seen, same]
    · rw [stateLeft_seen, reached]
  · rintro rfl
    exact ⟨(answer_seen outcome).symm, (stateLeft_seen outcome).symm⟩

namespace Evaluator.SeenAs

variable {evaluator : Evaluator σ ν ε} {other : Evaluator τ ν ε}

/-- What is seen as another evaluator simulates it. -/
theorem simulates (sees : evaluator.SeenAs other view) (scope : Scope) :
    Simulates scope (fun state other => view state = other) evaluator other where
  execute := by
    rintro code state _ rfl
    exact alike_view_iff.mpr (sees.execute code state)
  lookup := by
    rintro _ name state _ rfl
    rw [sees.lookup]
    exact ⟨rfl, rfl⟩
  publish := by
    rintro name value state _ rfl
    exact (sees.publish name value state).symm
  shown := sees.shown.symm
  normalizes := by
    rintro state _ rfl
    exact (sees.normalizes state).symm

theorem build (sees : evaluator.SeenAs other view) (template : Template) (state : σ) :
    template.build other (view state) = seen view (template.build evaluator state) :=
  alike_view_iff.mp ((sees.simulates template.scope).build rfl)

end Evaluator.SeenAs

/-! ## The calls of a build -/

section

variable (evaluator : Evaluator σ ν ε) (code : Text) (state : σ) (calls : List (Call ν))

@[simp]
theorem Evaluator.answer_recorded_execute :
    answer (evaluator.recorded.execute code (state, calls)) =
      answer (evaluator.execute code state) := by
  simp only [recorded]
  cases evaluator.execute code state <;> rfl

@[simp]
theorem Evaluator.stateLeft_recorded_execute :
    stateLeft (evaluator.recorded.execute code (state, calls)) =
      (stateLeft (evaluator.execute code state), calls ++ [.execute code]) := by
  simp only [recorded]
  cases evaluator.execute code state <;> rfl

end

/-- Without the record of its calls, a recorded evaluator is the evaluator
itself. -/
theorem Evaluator.recorded_seenAs (evaluator : Evaluator σ ν ε) :
    evaluator.recorded.SeenAs evaluator Prod.fst where
  execute := by
    rintro code ⟨state, calls⟩
    apply ext <;> simp
  lookup := fun _ _ => rfl
  publish := fun _ _ _ => rfl
  shown := rfl
  normalizes := fun _ => rfl

/-- The calls that a build of the template makes, oldest first. -/
def Template.calls (evaluator : Evaluator σ ν ε) (template : Template) (state : σ) :
    List (Call ν) :=
  (stateLeft (template.build evaluator.recorded (state, []))).2

end Inlay
