import Inlay.Proofs.Build.Recording

/-!
# Which fragments are executed

Whether a fragment of a template is executed can be told before the build, from
the scope, the names of the fragments in front of it, and in the scope of the
evaluator the bindings that the session starts with: this is `Fragment.due`.
The record of a build shows the codes of the fragments that were due, in order.
Only a failing execution cuts the record short, and it is the last one.

The invariant behind this, `Tracks`, says which names have a text after any
part of a template.  It is kept by publishing the value of one more fragment.
-/

namespace Inlay

variable {κ : Type}

/-! ## Due fragments -/

/-- The name of a fragment, blank or not. -/
def Segment.name? : Segment → Option Text
  | literal _ => none
  | code fragment => fragment.name

/-- The names that occur in segments. -/
def Segment.names (segments : List Segment) : List Text :=
  segments.filterMap Segment.name?

theorem Segment.mem_names_cons_of_mem {name : Text} {segment : Segment} {later : List Segment}
    (mem : name ∈ names later) : name ∈ names (segment :: later) :=
  ((List.sublist_cons_self segment later).filterMap name?).subset mem

/-- Whether the fragment is executed behind the given segments, in a session
that held the given bindings at first. -/
def Fragment.due (scope : Scope) (held : Store Text) (earlier : List Segment)
    (fragment : Fragment) : Bool :=
  match fragment.name, scope with
  | none, _ => true
  | some name, .evaluator =>
      (held.get? name).isNone && (name.isBlank || name ∉ Segment.names earlier)
  | some name, .build => name.isBlank || name ∉ Segment.names earlier

/-- The fragments that are executed behind the given segments. -/
def Segment.due (scope : Scope) (held : Store Text) (earlier : List Segment) :
    List Segment → List Fragment
  | [] => []
  | literal text :: later => due scope held (earlier ++ [literal text]) later
  | code fragment :: later =>
      if fragment.due scope held earlier then
        fragment :: due scope held (earlier ++ [code fragment]) later
      else
        due scope held (earlier ++ [code fragment]) later

/-- A name that is not blank occurs behind a fragment if it occurred before or
is the one the fragment publishes under. -/
theorem Segment.mem_names_append_code {name : Text} (visible : name.isBlank = false)
    (earlier : List Segment) (fragment : Fragment) :
    name ∈ names (earlier ++ [code fragment]) ↔
      name ∈ names earlier ∨ fragment.publishedName = some name := by
  simp [names, Segment.name?, Fragment.publishedName_eq_some_iff, visible]

@[simp]
theorem Segment.names_append_literal (earlier : List Segment) (text : Text) :
    names (earlier ++ [literal text]) = names earlier := by
  simp [names, Segment.name?]

/-! ## The invariant -/

/-- Which names have a text behind the given segments.  In the scope of the
evaluator these are the names held at first and those published since; in that
of the build only the latter. -/
def Tracks (scope : Scope) (held : Store Text) (earlier : List Segment)
    (published bindings : Store Text) : Prop :=
  match scope with
  | .evaluator => ∀ name, bindings.get? name = none ↔
      held.get? name = none ∧ (name.isBlank = true ∨ name ∉ Segment.names earlier)
  | .build => ∀ name, name.isBlank = false →
      (published.get? name = none ↔ name ∉ Segment.names earlier)

namespace Tracks

variable {scope : Scope} {held published bindings : Store Text} {earlier : List Segment}

theorem initial (scope : Scope) (held : Store Text) : Tracks scope held [] .empty held := by
  cases scope with
  | evaluator => simp [Tracks, Segment.names]
  | build => simp [Tracks, Segment.names]

/-- A fragment is due exactly if it finds no text. -/
theorem due_iff (tracks : Tracks scope held earlier published bindings) (fragment : Fragment) :
    fragment.due scope held earlier = true ↔
      fragment.found scope published bindings = none := by
  rcases fragment with ⟨code, name⟩
  cases name with
  | none => cases scope <;> simp [Fragment.due, Fragment.found]
  | some name =>
      cases scope with
      | evaluator =>
          change _ ↔ bindings.get? name = none
          rw [tracks name]
          simp [Fragment.due]
      | build =>
          cases blank : name.isBlank with
          | true => simp [Fragment.due, Fragment.found, Fragment.publishedName, blank]
          | false =>
              have named : Fragment.publishedName ⟨code, some name⟩ = some name :=
                Fragment.publishedName_eq_some_iff.mpr ⟨rfl, blank⟩
              rw [Fragment.found, named, Option.bind_some, tracks name blank]
              simp [Fragment.due, blank]

theorem literal (tracks : Tracks scope held earlier published bindings) (text : Text) :
    Tracks scope held (earlier ++ [.literal text]) published bindings := by
  simpa only [Tracks, Segment.names_append_literal] using tracks

/-- Publishing the value of a fragment keeps track of it. -/
theorem note (tracks : Tracks scope held earlier published bindings) (fragment : Fragment)
    (value : Text) :
    Tracks scope held (earlier ++ [.code fragment]) (fragment.note value published)
      (fragment.note value bindings) := by
  cases scope with
  | evaluator =>
      intro name
      rw [Fragment.get?_note]
      cases blank : name.isBlank with
      | true =>
          have unpublished : fragment.publishedName ≠ some name := by
            intro published
            have visible := (Fragment.publishedName_eq_some_iff.mp published).2
            simp [blank] at visible
          rw [if_neg unpublished, tracks name]
          simp [blank]
      | false =>
          rw [Segment.mem_names_append_code blank]
          have before := tracks name
          by_cases published : fragment.publishedName = some name
          · simp [published]
          · simpa [published, blank] using before
  | build =>
      intro name visible
      rw [Fragment.get?_note, Segment.mem_names_append_code visible]
      by_cases published : fragment.publishedName = some name
      · simp [published]
      · simpa [published] using tracks name visible

end Tracks

/-! ## The record of a build -/

/-- How a build that had to execute the given codes accounts for them.  If it
succeeds, it has executed them all, and none failed.  If it fails, some
execution failed with the same fault; it is the last one, and the codes before
it were executed without failing. -/
def Accounts (codes : List Text) (before : Session (κ × List Execution)) :
    EStateM.Result Fault (Session (κ × List Execution)) Text → Prop
  | .ok _ after =>
      ∃ executions, after.record = before.record ++ executions ∧
        executions.map Execution.code = codes ∧
        (∀ execution ∈ executions, ∃ value, execution.outcome = .ok value) ∧
        after.executions = before.executions + executions.length
  | .error fault after =>
      ∃ executions failed later, after.record = before.record ++ (executions ++ [failed]) ∧
        codes = executions.map Execution.code ++ failed.code :: later ∧
        (∀ execution ∈ executions, ∃ value, execution.outcome = .ok value) ∧
        failed.outcome = .error fault ∧
        after.executions = before.executions + (executions ++ [failed]).length

namespace Accounts

variable {codes : List Text} {before : Session (κ × List Execution)}
  {run : EStateM Fault (Session (κ × List Execution)) Text}

theorem map (change : Text → Text) {state : Session (κ × List Execution)}
    (accounts : Accounts codes before (run state)) :
    Accounts codes before ((change <$> run) state) := by
  cases ran : run state with
  | ok value after =>
      rw [ran] at accounts
      rwa [Sequence.map_of_ok ran]
  | error fault after =>
      rw [ran] at accounts
      rwa [Sequence.map_of_error ran]

/-- An execution that succeeds is accounted for in front of the others. -/
theorem cons {outcome : EStateM.Result Fault (Session (κ × List Execution)) Text}
    {between : Session (κ × List Execution)} {execution : Execution} {value : Text}
    (recorded : between.record = before.record ++ [execution])
    (counted : between.executions = before.executions + 1)
    (succeeded : execution.outcome = .ok value)
    (accounts : Accounts codes between outcome) :
    Accounts (execution.code :: codes) before outcome := by
  have extended (executions : List Execution)
      (each : ∀ execution ∈ executions, ∃ value, execution.outcome = .ok value) :
      ∀ other ∈ execution :: executions, ∃ value, other.outcome = .ok value :=
    List.forall_mem_cons.mpr ⟨⟨value, succeeded⟩, each⟩
  cases outcome with
  | ok built after =>
      rcases accounts with ⟨executions, record, codesEq, each, count⟩
      refine ⟨execution :: executions, ?_, ?_, extended executions each, ?_⟩
      · simp [record, recorded]
      · simp [codesEq]
      · simp [count, counted]
        omega
  | error fault after =>
      rcases accounts with ⟨executions, failed, later, record, codesEq, each, failure, count⟩
      refine ⟨execution :: executions, failed, later, ?_, ?_, extended executions each,
        failure, ?_⟩
      · simp [record, recorded]
      · simp [codesEq]
      · simp [count, counted]
        omega

end Accounts

namespace Segment

variable {host : Host κ} {scope : Scope} {held : Store Text} {earlier later : List Segment}

/-- A part of a build, behind what has been built earlier, accounts for the
fragments that are due in it. -/
def BuildAccounts (host : Host κ) (scope : Scope) (held : Store Text)
    (earlier segments : List Segment) : Prop :=
  ∀ (published : Store Text) (session : Session (κ × List Execution)),
    Tracks scope held earlier published session.bindings →
    Accounts ((due scope held earlier segments).map (Fragment.handed session.normalizes)) session
      (buildAfter (Session.evaluator host.recorded) scope published segments session)

theorem buildAccounts_nil : BuildAccounts host scope held earlier [] := by
  intro published session _
  exact ⟨[], by simp [due]⟩

theorem buildAccounts_literal {text : Text}
    (others : BuildAccounts host scope held (earlier ++ [literal text]) later) :
    BuildAccounts host scope held earlier (literal text :: later) := by
  intro published session tracks
  rw [buildAfter_literal]
  exact (others published session (tracks.literal text)).map _

section Code

variable {fragment : Fragment} {published : Store Text} {session : Session (κ × List Execution)}

/-- A fragment that is due is executed, and its value noted. -/
theorem accounts_of_due (tracks : Tracks scope held earlier published session.bindings)
    (isDue : fragment.due scope held earlier = true)
    (others : BuildAccounts host scope held (earlier ++ [code fragment]) later) :
    Accounts ((due scope held earlier (code fragment :: later)).map
        (Fragment.handed session.normalizes)) session
      (buildAfter (Session.evaluator host.recorded) scope published (code fragment :: later)
        session) := by
  have missing := (tracks.due_iff fragment).mp isDue
  have settled : fragment.settle (Session.evaluator host.recorded) scope published session = _ :=
    Fragment.settle_of_not_found missing
  simp only [due, if_pos isDue, List.map_cons]
  rcases Session.execute_recorded host (fragment.handed session.normalizes) session with
    ⟨value, memory, ran⟩ | ⟨fault, memory, ran⟩
  · rw [ran] at settled
    rw [buildAfter_code_of_ok settled, Fragment.announce_session]
    let execution : Execution :=
      ⟨fragment.handed session.normalizes, session.bindings, .ok value⟩
    have accounts := others _
      { session.afterExecution memory execution with
        bindings := fragment.note value session.bindings }
      (tracks.note fragment value)
    exact (accounts.map _).cons rfl rfl rfl
  · rw [ran] at settled
    rw [buildAfter_code_of_error settled]
    exact ⟨[], ⟨_, session.bindings, .error fault⟩, _, rfl, rfl, by simp, rfl, rfl⟩

/-- A fragment that is not due is not executed, and its value is noted again. -/
theorem accounts_of_not_due (tracks : Tracks scope held earlier published session.bindings)
    (notDue : ¬ fragment.due scope held earlier = true)
    (others : BuildAccounts host scope held (earlier ++ [code fragment]) later) :
    Accounts ((due scope held earlier (code fragment :: later)).map
        (Fragment.handed session.normalizes)) session
      (buildAfter (Session.evaluator host.recorded) scope published (code fragment :: later)
        session) := by
  have some : fragment.found scope published session.bindings ≠ none :=
    mt (tracks.due_iff fragment).mpr notDue
  obtain ⟨value, found⟩ := Option.ne_none_iff_exists'.mp some
  have settled : fragment.settle (Session.evaluator host.recorded) scope published session = _ :=
    Fragment.settle_of_found found
  simp only [due, if_neg notDue]
  rw [buildAfter_code_of_ok settled, Fragment.announce_session]
  have accounts := others _ { session with bindings := fragment.note value session.bindings }
    (tracks.note fragment value)
  exact accounts.map _

end Code

/-- Every part of a build accounts for the fragments that are due in it. -/
theorem buildAccounts (host : Host κ) (scope : Scope) (held : Store Text)
    (earlier segments : List Segment) : BuildAccounts host scope held earlier segments := by
  induction segments generalizing earlier with
  | nil => exact buildAccounts_nil
  | cons segment later ih =>
      cases segment with
      | literal text => exact buildAccounts_literal (ih _)
      | code fragment =>
          intro published session tracks
          by_cases isDue : fragment.due scope held earlier = true
          · exact accounts_of_due tracks isDue (ih _)
          · exact accounts_of_not_due tracks isDue (ih _)

end Segment

/-- The codes that a build of the template has to execute in the session. -/
def Template.dueCodes (template : Template) (session : Session κ) : List Text :=
  (Segment.due template.scope session.bindings [] template.segments).map
    (Fragment.handed session.normalizes)

/-- A build executes the fragments that are due, in order and up to the first
that fails, and counts its executions.  The record that shows this is kept
beside a build that is not changed by it. -/
theorem Template.build_executes_due (host : Host κ) (template : Template) (session : Session κ) :
    template.build (Session.evaluator host) session =
        Sequence.seen Session.forget
          (template.build (Session.evaluator host.recorded) session.recording) ∧
      Accounts (template.dueCodes session) session.recording
        (template.build (Session.evaluator host.recorded) session.recording) := by
  constructor
  · exact (Session.seenAs_forget host).build template session.recording
  · have accounts := Segment.buildAccounts host template.scope session.bindings []
      template.segments
    apply accounts
    exact Tracks.initial template.scope session.bindings

end Inlay
