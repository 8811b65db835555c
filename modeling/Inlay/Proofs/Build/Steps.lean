import Inlay.Proofs.Sequence
import Inlay.Template.Build

/-!
# The steps of a build

A build takes its segments one by one.  A literal only adds its text.  A
fragment is settled, its value is announced to the evaluator and noted among
the published values, and its text is added; whether there is a name to
publish under is a matter of announcing and noting alone.  So the proofs about
builds have two steps to consider, whatever the evaluator and the scope.
-/

namespace Inlay

open Sequence

variable {σ ν ε : Type}

namespace Fragment

/-- The evaluator after the value of the fragment was published, if the
fragment has a name to publish it under. -/
def announce (evaluator : Evaluator σ ν ε) (fragment : Fragment) (value : ν) (state : σ) : σ :=
  match fragment.publishedName with
  | none => state
  | some name => evaluator.publish name value state

/-- The values published by a build after that of the fragment. -/
def note (fragment : Fragment) (value : ν) (published : Store ν) : Store ν :=
  match fragment.publishedName with
  | none => published
  | some name => published.insert name value

/-- Noting a value gives it to the name that the fragment publishes under. -/
theorem get?_note (fragment : Fragment) (value : ν) (store : Store ν) (name : Text) :
    (fragment.note value store).get? name =
      if fragment.publishedName = some name then some value else store.get? name := by
  cases named : fragment.publishedName with
  | none => simp [note, named]
  | some published => simp [note, named, Store.get?_insert, eq_comm]

/-- The code as it is handed to an evaluator that does or does not want
durations rewritten. -/
def handed (normalizes : Bool) (fragment : Fragment) : Text :=
  if normalizes then Duration.normalize fragment.code else fragment.code

theorem evaluate_apply (evaluator : Evaluator σ ν ε) (fragment : Fragment) (state : σ) :
    evaluate evaluator fragment state =
      evaluator.execute (fragment.handed (evaluator.normalizes state)) state := by
  have asked : (get : EStateM ε σ σ) state = .ok state state := rfl
  rw [evaluate, bind_of_ok asked]
  by_cases wants : evaluator.normalizes state = true
  · simp [wants, handed]
  · simp [wants, handed]

section

variable {evaluator : Evaluator σ ν ε} {fragment : Fragment} {name : Text} {state looked : σ}
  {value : ν}

theorem resolve_of_anonymous (anonymous : fragment.name = none) :
    resolve evaluator fragment = evaluate evaluator fragment := by
  simp only [resolve, anonymous]

theorem resolve_of_lookup_some (named : fragment.name = some name)
    (finds : evaluator.lookup name state = (some value, looked)) :
    resolve evaluator fragment state = .ok value looked := by
  have lookedUp : (modifyGet (evaluator.lookup name) : EStateM ε σ (Option ν)) state =
      .ok (evaluator.lookup name state).1 (evaluator.lookup name state).2 := rfl
  rw [finds] at lookedUp
  simp only [resolve, named]
  rw [bind_of_ok lookedUp]
  rfl

theorem resolve_of_lookup_none (named : fragment.name = some name)
    (misses : evaluator.lookup name state = (none, looked)) :
    resolve evaluator fragment state = evaluate evaluator fragment looked := by
  have lookedUp : (modifyGet (evaluator.lookup name) : EStateM ε σ (Option ν)) state =
      .ok (evaluator.lookup name state).1 (evaluator.lookup name state).2 := rfl
  rw [misses] at lookedUp
  simp only [resolve, named]
  rw [bind_of_ok lookedUp]

/-- In the scope of the build the published values decide, and the evaluator
is not asked. -/
theorem settle_build_of_some {published : Store ν}
    (holds : fragment.publishedName.bind published.get? = some value) :
    settle evaluator .build published fragment = pure value := by
  simp only [settle, holds]

theorem settle_build_of_none {published : Store ν}
    (misses : fragment.publishedName.bind published.get? = none) :
    settle evaluator .build published fragment = evaluate evaluator fragment := by
  simp only [settle, misses]

end

/-! ### Answers -/

/-- The name that the fragment looks up with the evaluator: its own, blank or
not, in the scope of the evaluator, and none in that of the build. -/
def question (scope : Scope) (fragment : Fragment) : Option Text :=
  match scope with
  | .evaluator => fragment.name
  | .build => none

/-- The evaluator after the fragment has looked up its name. -/
def asked (evaluator : Evaluator σ ν ε) (scope : Scope) (fragment : Fragment) (state : σ) : σ :=
  match fragment.question scope with
  | none => state
  | some name => (evaluator.lookup name state).2

/-- The published value that answers for the fragment, if there is one. -/
def answer? (evaluator : Evaluator σ ν ε) (scope : Scope) (published : Store ν)
    (fragment : Fragment) (state : σ) : Option ν :=
  match scope with
  | .evaluator => fragment.name.bind fun name => (evaluator.lookup name state).1
  | .build => fragment.publishedName.bind published.get?

section

variable {evaluator : Evaluator σ ν ε} {scope : Scope} {published : Store ν} {fragment : Fragment}
  {state : σ} {value : ν}

theorem settle_of_answer_some
    (answers : fragment.answer? evaluator scope published state = some value) :
    fragment.settle evaluator scope published state =
      .ok value (fragment.asked evaluator scope state) := by
  cases scope with
  | build =>
      rw [settle_build_of_some answers]
      rfl
  | evaluator =>
      obtain ⟨name, named, finds⟩ := Option.bind_eq_some_iff.mp answers
      have looks : evaluator.lookup name state = (some value, (evaluator.lookup name state).2) :=
        Prod.ext finds rfl
      simp only [asked, question, named]
      exact resolve_of_lookup_some named looks

theorem settle_of_answer_none
    (silent : fragment.answer? evaluator scope published state = none) :
    fragment.settle evaluator scope published state =
      fragment.evaluate evaluator (fragment.asked evaluator scope state) := by
  cases scope with
  | build =>
      rw [settle_build_of_none silent]
      rfl
  | evaluator =>
      cases named : fragment.name with
      | none =>
          simp only [asked, question, named]
          exact congrFun (resolve_of_anonymous named) state
      | some name =>
          have misses : (evaluator.lookup name state).1 = none := by
            simpa only [answer?, named, Option.bind_some] using silent
          have looks : evaluator.lookup name state = (none, (evaluator.lookup name state).2) :=
            Prod.ext misses rfl
          simp only [asked, question, named]
          exact resolve_of_lookup_none named looks

/-- A fragment fails only because nothing answers for it and the execution of
its code fails. -/
theorem of_settle_eq_error {left : σ} {error : ε}
    (failed : fragment.settle evaluator scope published state = .error error left) :
    fragment.answer? evaluator scope published state = none ∧
      let asked := fragment.asked evaluator scope state
      evaluator.execute (fragment.handed (evaluator.normalizes asked)) asked =
        .error error left := by
  cases answers : fragment.answer? evaluator scope published state with
  | some value =>
      rw [settle_of_answer_some answers] at failed
      contradiction
  | none =>
      rw [settle_of_answer_none answers, evaluate_apply] at failed
      exact ⟨rfl, failed⟩

end

end Fragment

namespace Segment

/-- The names that segments publish under, in order. -/
def publishedNames (segments : List Segment) : List Text :=
  segments.filterMap publishedName

theorem mem_publishedNames_cons {name : Text} {segment : Segment} {later : List Segment} :
    name ∈ publishedNames (segment :: later) ↔
      segment.publishedName = some name ∨ name ∈ publishedNames later := by
  simp [publishedNames]

theorem mem_publishedNames_cons_of_mem {name : Text} {segment : Segment} {later : List Segment}
    (mem : name ∈ publishedNames later) : name ∈ publishedNames (segment :: later) :=
  mem_publishedNames_cons.mpr (.inr mem)

variable (evaluator : Evaluator σ ν ε) (scope : Scope) (published : Store ν)

@[simp]
theorem buildAfter_nil : buildAfter evaluator scope published [] = pure [] :=
  rfl

theorem buildAfter_literal (text : Text) (later : List Segment) :
    buildAfter evaluator scope published (literal text :: later) =
      (text ++ ·) <$> buildAfter evaluator scope published later := by
  simp only [buildAfter, bind_pure_comp]

theorem buildAfter_code (fragment : Fragment) (later : List Segment) :
    buildAfter evaluator scope published (code fragment :: later) = (do
      let value ← fragment.settle evaluator scope published
      modify (fragment.announce evaluator value)
      (evaluator.shown value ++ ·) <$>
        buildAfter evaluator scope (fragment.note value published) later) := by
  simp only [buildAfter]
  congr
  funext value
  cases named : fragment.publishedName with
  | none =>
      have unchanged : fragment.announce evaluator value = id := by
        funext state
        simp only [Fragment.announce, named, id]
      simp only [Fragment.note, named, unchanged, bind_pure_comp]
      rfl
  | some name =>
      have changed : fragment.announce evaluator value = evaluator.publish name value := by
        funext state
        simp only [Fragment.announce, named]
      simp only [Fragment.note, named, changed, bind_pure_comp]

variable {evaluator scope published} {fragment : Fragment} {later : List Segment}
  {state reached : σ} {value : ν} {error : ε}

/-- Behind a settled fragment the build goes on from the announced value. -/
theorem buildAfter_code_of_ok
    (settled : fragment.settle evaluator scope published state = .ok value reached) :
    buildAfter evaluator scope published (code fragment :: later) state =
      ((evaluator.shown value ++ ·) <$>
        buildAfter evaluator scope (fragment.note value published) later)
          (fragment.announce evaluator value reached) := by
  rw [buildAfter_code, bind_of_ok settled]
  rfl

/-- A fragment that fails ends the build. -/
theorem buildAfter_code_of_error
    (failed : fragment.settle evaluator scope published state = .error error reached) :
    buildAfter evaluator scope published (code fragment :: later) state = .error error reached := by
  rw [buildAfter_code, bind_of_error failed]

end Segment

end Inlay
