/-!
# Sequencing computations with state and failure

A computation either gives a value or fails, and leaves a state in both cases.
The laws below say what a sequence of two does once the outcome of the first
is known, so that the proofs about scans and builds never unfold the monad.

Two computations may also run side by side, in states that are related: they
are alike when both end in the same way and leave related states.  And
computations may be run in turn whether they fail or not.
-/

namespace Inlay.Sequence

variable {σ ε α β : Type}

/-- How a computation ended, whatever state it left. -/
def answer : EStateM.Result ε σ α → Except ε α
  | .ok value _ => .ok value
  | .error error _ => .error error

/-- The state that a computation left, however it ended. -/
def stateLeft : EStateM.Result ε σ α → σ
  | .ok _ state => state
  | .error _ state => state

/-- A computation is known by how it ended and the state that it left. -/
theorem ext {outcome other : EStateM.Result ε σ α} (answers : answer outcome = answer other)
    (states : stateLeft outcome = stateLeft other) : outcome = other := by
  cases outcome <;> cases other <;> simp_all [answer, stateLeft]

@[simp]
theorem stateLeft_map (change : α → β) (run : EStateM ε σ α) (state : σ) :
    stateLeft ((change <$> run) state) = stateLeft (run state) := by
  simp only [Functor.map, EStateM.map]
  cases run state <;> rfl

variable {first : EStateM ε σ α} {state reached : σ} {value : α} {error : ε}

theorem bind_of_ok {next : α → EStateM ε σ β} (gives : first state = .ok value reached) :
    (first >>= next) state = next value reached := by
  simp only [bind, EStateM.bind, gives]

theorem bind_of_error {next : α → EStateM ε σ β} (fails : first state = .error error reached) :
    (first >>= next) state = .error error reached := by
  simp only [bind, EStateM.bind, fails]

theorem bind_eq_ok_iff {next : α → EStateM ε σ β} {result : β} {last : σ} :
    (first >>= next) state = .ok result last ↔
      ∃ value reached, first state = .ok value reached ∧ next value reached = .ok result last := by
  cases ran : first state with
  | error error left => simp [bind_of_error ran]
  | ok value left =>
      rw [bind_of_ok ran]
      constructor
      · intro gives
        exact ⟨value, left, rfl, gives⟩
      · rintro ⟨_, _, same, gives⟩
        cases same
        exact gives

theorem map_of_ok {change : α → β} (gives : first state = .ok value reached) :
    (change <$> first) state = .ok (change value) reached := by
  simp only [Functor.map, EStateM.map, gives]

theorem map_of_error {change : α → β} (fails : first state = .error error reached) :
    (change <$> first) state = .error error reached := by
  simp only [Functor.map, EStateM.map, fails]

theorem map_eq_ok_iff {change : α → β} {result : β} :
    (change <$> first) state = .ok result reached ↔
      ∃ value, first state = .ok value reached ∧ change value = result := by
  cases ran : first state with
  | error error left => simp [map_of_error ran]
  | ok value left =>
      rw [map_of_ok ran]
      constructor
      · intro same
        cases same
        exact ⟨value, rfl, rfl⟩
      · rintro ⟨_, same, rfl⟩
        cases same
        rfl

theorem map_eq_error_iff {change : α → β} :
    (change <$> first) state = .error error reached ↔ first state = .error error reached := by
  cases ran : first state with
  | ok value left => simp [map_of_ok ran]
  | error other left => simp [map_of_error ran]

theorem map_of_eq {other : EStateM ε σ α} {change : α → β} (same : first state = other reached) :
    (change <$> first) state = (change <$> other) reached := by
  simp only [Functor.map, EStateM.map, same]

/-! ## Two computations -/

section

variable {τ : Type} {related : σ → τ → Prop}

/-- Two outcomes are alike if both are the same value or both the same error,
and the states that are left are related. -/
inductive Alike (related : σ → τ → Prop) :
    EStateM.Result ε σ α → EStateM.Result ε τ α → Prop
  | ok (value : α) {state : σ} {other : τ} :
      related state other → Alike related (.ok value state) (.ok value other)
  | error (error : ε) {state : σ} {other : τ} :
      related state other → Alike related (.error error state) (.error error other)

theorem alike_iff {outcome : EStateM.Result ε σ α} {otherOutcome : EStateM.Result ε τ α} :
    Alike related outcome otherOutcome ↔
      answer outcome = answer otherOutcome ∧
        related (stateLeft outcome) (stateLeft otherOutcome) := by
  constructor
  · intro alike
    cases alike with
    | ok value reached => exact ⟨rfl, reached⟩
    | error error reached => exact ⟨rfl, reached⟩
  · rintro ⟨same, reached⟩
    cases outcome with
    | ok value state =>
        cases otherOutcome with
        | ok otherValue otherState =>
            cases same
            exact .ok value reached
        | error error otherState => contradiction
    | error error state =>
        cases otherOutcome with
        | ok otherValue otherState => contradiction
        | error otherError otherState =>
            cases same
            exact .error error reached

namespace Alike

variable {run : EStateM ε σ α} {otherRun : EStateM ε τ α} {start : σ} {otherStart : τ}

theorem map (change : α → β) (alike : Alike related (run start) (otherRun otherStart)) :
    Alike related ((change <$> run) start) ((change <$> otherRun) otherStart) := by
  generalize ran : run start = outcome at alike
  generalize otherRan : otherRun otherStart = otherOutcome at alike
  cases alike with
  | ok value reached =>
      rw [map_of_ok ran, map_of_ok otherRan]
      exact .ok _ reached
  | error error reached =>
      rw [map_of_error ran, map_of_error otherRan]
      exact .error _ reached

theorem bind {next : α → EStateM ε σ β} {otherNext : α → EStateM ε τ β}
    (alike : Alike related (run start) (otherRun otherStart))
    (goesOn : ∀ value {state other}, related state other →
      Alike related (next value state) (otherNext value other)) :
    Alike related ((run >>= next) start) ((otherRun >>= otherNext) otherStart) := by
  generalize ran : run start = outcome at alike
  generalize otherRan : otherRun otherStart = otherOutcome at alike
  cases alike with
  | ok value reached =>
      rw [bind_of_ok ran, bind_of_ok otherRan]
      exact goesOn value reached
  | error error reached =>
      rw [bind_of_error ran, bind_of_error otherRan]
      exact .error error reached

end Alike

end

/-! ## One after the other -/

/-- The answers of computations of which each begins where the one before it
ended, failing or not, and the state left by the last. -/
def inTurn : List (EStateM ε σ α) → σ → List (Except ε α) × σ
  | [], state => ([], state)
  | run :: later, state =>
      let others := inTurn later (stateLeft (run state))
      (answer (run state) :: others.1, others.2)

theorem stateLeft_inTurn_append (earlier later : List (EStateM ε σ α)) (start : σ) :
    (inTurn (earlier ++ later) start).2 = (inTurn later (inTurn earlier start).2).2 := by
  induction earlier generalizing start with
  | nil => rfl
  | cons run earlier ih => exact ih (stateLeft (run start))

/-- What every one of the computations preserves holds behind all of them. -/
theorem inTurn_preserves (kept : σ → Prop) {runs : List (EStateM ε σ α)} {start : σ}
    (step : ∀ run ∈ runs, ∀ state, kept state → kept (stateLeft (run state)))
    (holds : kept start) : kept (inTurn runs start).2 := by
  induction runs generalizing start with
  | nil => exact holds
  | cons run later ih =>
      have first := step run List.mem_cons_self start holds
      exact ih (fun other member => step other (List.mem_cons_of_mem run member)) first

/-- Computations that do the same in related states give the same answers in
turn and leave related states. -/
theorem inTurn_alike {related : σ → σ → Prop} {runs : List (EStateM ε σ α)} {start other : σ}
    (step : ∀ run ∈ runs, ∀ state state', related state state' →
      Alike related (run state) (run state'))
    (holds : related start other) :
    (inTurn runs start).1 = (inTurn runs other).1 ∧
      related (inTurn runs start).2 (inTurn runs other).2 := by
  induction runs generalizing start other with
  | nil => exact ⟨rfl, holds⟩
  | cons run later ih =>
      obtain ⟨answers, states⟩ := alike_iff.mp (step run List.mem_cons_self start other holds)
      obtain ⟨others, final⟩ :=
        ih (fun next member => step next (List.mem_cons_of_mem run member)) states
      refine ⟨?_, final⟩
      rw [inTurn, inTurn, answers, others]

end Inlay.Sequence
