import Inlay.Proofs.Build.Runs

/-!
# The bindings that a build leaves

A build gives each published name of a template one text.  Every fragment of
that name contributes this text, and the bindings are those held at first,
overridden by the texts of the names that the build got to.  This is so after
every part of a build, so that it also tells what an execution in the middle is
shown and what a failing build leaves.

Two facts about the steps are behind it.  What a fragment can find is never
changed by a later step, and what a fragment contributes is what fragments of
the same name find from then on.
-/

namespace Inlay

open Sequence

variable {κ ν : Type}

/-! ## Names with values -/

/-- The store with the value of each of the names published under it. -/
def Store.assign (store : Store ν) (value : Text → ν) (names : List Text) : Store ν :=
  store.insertAll (names.map fun name => (name, value name))

@[simp]
theorem Store.assign_nil (store : Store ν) (value : Text → ν) : store.assign value [] = store :=
  rfl

@[simp]
theorem Store.assign_cons (store : Store ν) (value : Text → ν) (name : Text) (names : List Text) :
    store.assign value (name :: names) = (store.insert name (value name)).assign value names :=
  rfl

/-- The names have their values, and any other name has what it had. -/
theorem Store.get?_assign (store : Store ν) (value : Text → ν) (names : List Text) (name : Text) :
    (store.assign value names).get? name =
      if name ∈ names then some (value name) else store.get? name := by
  induction names generalizing store with
  | nil => simp
  | cons first names ih =>
      rw [assign_cons, ih, get?_insert]
      by_cases later : name ∈ names
      · simp [later]
      · by_cases here : name = first
        · simp [here]
        · simp [later, here]

/-! ## What a step does -/

/-- The store after a share's text was published under the name of its
segment. -/
def Share.note (share : Share) (store : Store Text) : Store Text :=
  match share.segment.publishedName with
  | none => store
  | some name => store.insert name share.text

theorem Share.get?_note (share : Share) (store : Store Text) (name : Text) :
    (share.note store).get? name =
      if share.segment.publishedName = some name then some share.text else store.get? name := by
  cases named : share.segment.publishedName with
  | none => simp [note, named]
  | some published => simp [note, named, Store.get?_insert, eq_comm]

namespace Stage

variable {host : Host κ} {scope : Scope} {stage next reached : Stage κ} {share : Share}
  {shares : List Share} {name text : Text}

/-- The texts among which fragments are looked up at this stage. -/
def known (scope : Scope) (stage : Stage κ) : Store Text :=
  match scope with
  | .evaluator => stage.session.bindings
  | .build => stage.published

/-- A fragment finds what is known under the name that it publishes under. -/
theorem found_of_publishedName {fragment : Fragment}
    (named : fragment.publishedName = some name) :
    stage.found scope fragment = (stage.known scope).get? name := by
  cases scope with
  | evaluator => exact Fragment.found_of_publishedName named
  | build => simp only [found, Fragment.found, named, Option.bind_some, known]

/-- A step notes its text among the bindings. -/
theorem Step.bindings (step : Step host scope stage share next) :
    next.session.bindings = share.note stage.session.bindings := by
  cases step with
  | literal text => rfl
  | found found => rfl
  | executed missing ran => rfl

/-- A step notes its text where fragments are looked up. -/
theorem Step.known (step : Step host scope stage share next) :
    next.known scope = share.note (stage.known scope) := by
  cases scope with
  | evaluator => exact step.bindings
  | build =>
      cases step with
      | literal text => rfl
      | found found => rfl
      | executed missing ran => rfl

/-- If a text is known under the name of a segment, its share is this text. -/
theorem Step.text_of_known (step : Step host scope stage share next)
    (named : share.segment.publishedName = some name)
    (known : (stage.known scope).get? name = some text) : share.text = text := by
  cases step with
  | literal text => contradiction
  | found found =>
      rw [found_of_publishedName named, known] at found
      exact (Option.some.inj found).symm
  | executed missing ran =>
      rw [found_of_publishedName named, known] at missing
      contradiction

/-- What is known before a step is known after it. -/
theorem Step.known_of_known (step : Step host scope stage share next)
    (known : (stage.known scope).get? name = some text) :
    (next.known scope).get? name = some text := by
  rw [step.known, Share.get?_note]
  by_cases named : share.segment.publishedName = some name
  · rw [if_pos named, step.text_of_known named known]
  · rw [if_neg named, known]

/-- A step adds its execution to the record. -/
theorem Step.record (step : Step host scope stage share next) :
    next.session.record = stage.session.record ++ share.execution?.toList := by
  cases step with
  | literal text => exact (List.append_nil _).symm
  | found found => exact (List.append_nil _).symm
  | executed missing ran => rfl

/-- The execution of a step is shown the bindings before the step. -/
theorem Step.shown (step : Step host scope stage share next) {execution : Execution}
    (executed : share.execution? = some execution) :
    execution.bindings = stage.session.bindings := by
  cases step with
  | literal text => contradiction
  | found found => contradiction
  | executed missing ran =>
      cases executed
      rfl

/-! ## What a run does -/

theorem Run.known_of_known (run : Run host scope stage shares reached)
    (known : (stage.known scope).get? name = some text) :
    (reached.known scope).get? name = some text := by
  induction run with
  | nil stage => exact known
  | cons step run ih => exact ih (step.known_of_known known)

/-- The text of a share is known in the end under the name of its segment. -/
theorem Run.known_of_mem (run : Run host scope stage shares reached) (mem : share ∈ shares)
    (named : share.segment.publishedName = some name) :
    (reached.known scope).get? name = some share.text := by
  induction run with
  | nil stage => contradiction
  | cons step run ih =>
      rcases List.mem_cons.mp mem with rfl | mem
      · apply run.known_of_known
        rw [step.known, Share.get?_note, if_pos named]
      · exact ih mem

theorem Run.record (run : Run host scope stage shares reached) :
    reached.session.record = stage.session.record ++ shares.filterMap Share.execution? := by
  induction run with
  | nil stage => simp
  | @cons _ _ _ share _ step run ih =>
      rw [ih, step.record]
      cases executed : share.execution? <;> simp [executed]

/-- If each name has one value in a run, the bindings are those before the run
with these values assigned to the names. -/
theorem Run.bindings (run : Run host scope stage shares reached) (value : Text → Text)
    (settled : ∀ share ∈ shares, ∀ name, share.segment.publishedName = some name →
      share.text = value name) :
    reached.session.bindings =
      stage.session.bindings.assign value (Segment.publishedNames (shares.map Share.segment)) := by
  induction run with
  | nil stage => rfl
  | @cons _ _ _ share _ step run ih =>
      have later := ih fun other mem => settled other (List.mem_cons_of_mem share mem)
      have here := settled share List.mem_cons_self
      rw [later, step.bindings]
      cases named : share.segment.publishedName with
      | none => simp [Share.note, Segment.publishedNames, named]
      | some name => simp [Share.note, Segment.publishedNames, named, here name named]

end Stage

/-! ## What a build does -/

/-- The shares that segments have in a build, which gives each of their names
one value. -/
structure Settled (host : Host κ) (scope : Scope) (session : Session κ) (value : Text → Text)
    (shares : List Share) : Prop where
  /-- Any of the first segments, built on their own, make these texts and these
  executions, and their names have their values then. -/
  front : ∀ earlier later, shares = earlier ++ later → ∃ after,
    Segment.build (Session.evaluator host.recorded) scope (earlier.map Share.segment)
        session.recording = .ok (earlier.flatMap Share.text) after ∧
      after.record = earlier.filterMap Share.execution? ∧
      after.bindings =
        session.bindings.assign value (Segment.publishedNames (earlier.map Share.segment))
  /-- A fragment contributes the value of its name. -/
  named : ∀ share ∈ shares, ∀ name, share.segment.publishedName = some name →
    share.text = value name
  /-- An execution is shown the values of the names before it. -/
  shown : ∀ earlier share later execution, shares = earlier ++ share :: later →
    share.execution? = some execution → execution.bindings =
      session.bindings.assign value (Segment.publishedNames (earlier.map Share.segment))
  /-- In the scope of the evaluator, a name that was bound has the value it was
  bound to. -/
  kept : scope = .evaluator → ∀ name held, session.bindings.get? name = some held →
    value name = held

/-- In the scope of the evaluator, assigning their values to names changes no
binding. -/
theorem Settled.get?_assign_of_held {host : Host κ} {scope : Scope} {session : Session κ}
    {value : Text → Text} {shares : List Share} (settled : Settled host scope session value shares)
    (wide : scope = .evaluator) {name held : Text} (bound : session.bindings.get? name = some held)
    (names : List Text) : (session.bindings.assign value names).get? name = some held := by
  rw [Store.get?_assign, settled.kept wide name held bound]
  by_cases named : name ∈ names
  · rw [if_pos named]
  · rw [if_neg named]
    exact bound

namespace Stage

variable {host : Host κ} {scope : Scope} {session : Session κ} {reached : Stage κ}
  {shares : List Share}

/-- The value of a name in a run is the text known under it in the end. -/
theorem Run.settled (run : Run host scope (initial session) shares reached) :
    Settled host scope session (fun name => ((reached.known scope).get? name).getD []) shares := by
  have named : ∀ share ∈ shares, ∀ name, share.segment.publishedName = some name →
      share.text = ((reached.known scope).get? name).getD [] := by
    intro share mem name published
    rw [run.known_of_mem mem published, Option.getD_some]
  have behind {earlier later : List Share} {middle : Stage κ} (split : shares = earlier ++ later)
      (first : Run host scope (initial session) earlier middle) :=
    first.bindings _ fun share mem => named share (split ▸ List.mem_append_left later mem)
  -- an initial part of the run is a run that gives the names the same values
  refine ⟨?_, named, ?_, ?_⟩
  · rintro earlier later rfl
    obtain ⟨middle, first, _⟩ := run_append_iff.mp run
    exact ⟨middle.session, first.buildAfter_eq_ok, first.record, behind rfl first⟩
  · rintro earlier share later execution rfl executed
    obtain ⟨middle, first, second⟩ := run_append_iff.mp run
    cases second with
    | cons step _ => exact (step.shown executed).trans (behind rfl first)
  · rintro rfl name held bound
    have known : ((initial session).known .evaluator).get? name = some held := bound
    rw [run.known_of_known known, Option.getD_some]

end Stage

/-- A build gives each published name of a template one value, which every
fragment of that name contributes, and leaves the bindings it started with,
overridden by the values of the names that it got to; in the scope of the
evaluator this changes no binding that was there.  Executions are shown the
bindings with the values of the names before them.  A failing build stops
behind its last share, and the execution that failed changed no binding. -/
theorem Template.build_settles_names (host : Host κ) (template : Template) (session : Session κ) :
    let outcome := template.build (Session.evaluator host.recorded) session.recording
    template.build (Session.evaluator host) session = seen Session.forget outcome ∧
      ∃ value shares, Settled host template.scope session value shares ∧
        (stateLeft outcome).bindings =
          session.bindings.assign value (Segment.publishedNames (shares.map Share.segment)) ∧
        (template.scope = .evaluator → ∀ name held, session.bindings.get? name = some held →
          (stateLeft outcome).bindings.get? name = some held) ∧
        match outcome with
        | .ok built after =>
            shares.map Share.segment = template.segments ∧ built = shares.flatMap Share.text ∧
              after.record = shares.filterMap Share.execution?
        | .error fault after =>
            ∃ fragment later failed,
              shares.map Share.segment ++ .code fragment :: later = template.segments ∧
                after.record = shares.filterMap Share.execution? ++ [failed] ∧
                failed.outcome = .error fault ∧ failed.bindings = after.bindings := by
  intro outcome
  refine ⟨(Session.seenAs_forget host).build template session.recording, ?_⟩
  obtain ⟨shares, reached, run, ending⟩ :=
    Stage.exists_run host template.scope template.segments (.initial session)
  have settled := run.settled
  have bindings := run.bindings _ settled.named
  have unchanged : template.scope = .evaluator → ∀ name held,
      session.bindings.get? name = some held →
        reached.session.bindings.get? name = some held := by
    intro wide name held bound
    rw [bindings]
    exact settled.get?_assign_of_held wide bound _
  have record := run.record
  refine ⟨_, shares, settled, ?_⟩
  rcases ending with whole | ⟨fragment, later, fault, memory, part, stops⟩
  · have built : outcome = .ok (shares.flatMap Share.text) reached.session := by
      have ran := run.buildAfter_eq_ok
      rwa [whole] at ran
    rw [built]
    exact ⟨bindings, unchanged, whole, rfl, record⟩
  · let failed := reached.execution fragment (.error fault)
    have stopped : outcome = .error fault (reached.afterExecution memory failed).session := by
      have ran := run.buildAfter_eq_error stops later
      rwa [part] at ran
    have recorded : (reached.afterExecution memory failed).session.record =
        shares.filterMap Share.execution? ++ [failed] :=
      congrArg (· ++ [failed]) record
    rw [stopped]
    exact ⟨bindings, unchanged, fragment, later, failed, part, recorded, rfl, rfl⟩

end Inlay
