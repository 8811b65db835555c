import Inlay.Proofs.Build.Sessions
import Inlay.Proofs.Build.Views

/-!
# Builds of their own scope are isolated

In its own scope a build asks no evaluator for a value.  So nothing that was
bound before can show in it, except through a host that looks at the bindings
itself.  If the answers of the host do not depend on the bindings it is shown,
two builds that start from different bindings run side by side: they make the
same calls and end in the same way, and what they publish is put over what each
of them started with.
-/

namespace Inlay

open Sequence

variable {κ σ ν ε : Type}

/-! ## Hosts that pay no attention to bindings -/

namespace Host

/-- The answers of a host to codes that it is handed in a row, each together
with the bindings it is shown. -/
def answers (host : Host κ) : List (Text × Store Text) → κ → List (Except Fault Text)
  | [], _ => []
  | (code, bindings) :: later, memory =>
      answer (host code bindings memory) ::
        answers host later (stateLeft (host code bindings memory))

/-- From the one memory the host answers as from the other, whatever bindings
it is shown in between. -/
def Indistinct (host : Host κ) (memory other : κ) : Prop :=
  ∀ handed otherHanded : List (Text × Store Text),
    handed.map Prod.fst = otherHanded.map Prod.fst →
      host.answers handed memory = host.answers otherHanded other

/-- From this memory on, the answers of the host do not depend on the bindings
it is shown. -/
def Oblivious (host : Host κ) (memory : κ) : Prop :=
  host.Indistinct memory memory

variable {host : Host κ} {memory other : κ}

theorem Indistinct.answer_eq (same : host.Indistinct memory other) (code : Text)
    (bindings otherBindings : Store Text) :
    answer (host code bindings memory) = answer (host code otherBindings other) :=
  (List.cons.inj (same [(code, bindings)] [(code, otherBindings)] rfl)).1

theorem Indistinct.stateLeft (same : host.Indistinct memory other) (code : Text)
    (bindings otherBindings : Store Text) :
    host.Indistinct (stateLeft (host code bindings memory))
      (stateLeft (host code otherBindings other)) := by
  intro handed otherHanded sameCodes
  have behind := same ((code, bindings) :: handed) ((code, otherBindings) :: otherHanded)
    (by simp [sameCodes])
  exact (List.cons.inj behind).2

end Host

/-! ## The records of two sessions side by side -/

/-- No call of the record asks for a value. -/
def Unasked (calls : List (Call ν)) : Prop :=
  ∀ name, .lookup name ∉ calls

theorem Unasked.append {calls : List (Call ν)} {call : Call ν} (unasked : Unasked calls)
    (other : ∀ name, call ≠ .lookup name) : Unasked (calls ++ [call]) := by
  intro name mem
  rcases List.mem_append.mp mem with before | last
  · exact unasked name before
  · exact other name (List.mem_singleton.mp last).symm

/-- Without looking up, the record of an evaluator stays free of questions. -/
theorem Evaluator.preserves_unasked (evaluator : Evaluator σ ν ε) :
    Preserves .build (fun state => Unasked state.2) evaluator.recorded where
  execute := by
    rintro code ⟨state, calls⟩ unasked
    rw [stateLeft_recorded_execute]
    exact unasked.append (by simp)
  lookup := by simp
  publish := fun name value _ unasked => unasked.append (by simp)

namespace Session

/-- Two sessions with records of their calls run side by side if they have made
the same calls and the host answers them in the same way.  Their bindings may
be different. -/
structure Abreast (host : Host κ) (state other : Session κ × List (Call Text)) : Prop where
  calls : state.2 = other.2
  memory : host.Indistinct state.1.memory other.1.memory
  normalizes : state.1.normalizes = other.1.normalizes
  executions : state.1.executions = other.1.executions

/-- In the scope of the build sessions stay side by side, because the host
answers both in the same way and nothing is looked up. -/
theorem simulates_abreast (host : Host κ) :
    Evaluator.Simulates .build (Abreast host) (evaluator host).recorded
      (evaluator host).recorded where
  execute := by
    rintro code ⟨session, calls⟩ ⟨other, _⟩ ⟨rfl, memory, normalizes, executions⟩
    rw [alike_iff]
    simp only [Evaluator.answer_recorded_execute, Evaluator.stateLeft_recorded_execute,
      answer_execute, stateLeft_execute]
    exact ⟨memory.answer_eq code session.bindings other.bindings, rfl,
      memory.stateLeft code session.bindings other.bindings, normalizes,
      congrArg (· + 1) executions⟩
  lookup := by simp
  publish := fun name value _ _ abreast =>
    ⟨congrArg (fun calls => calls ++ [Call.publish name value]) abreast.calls, abreast.memory,
      abreast.normalizes, abreast.executions⟩
  shown := rfl
  normalizes := fun abreast => abreast.normalizes

end Session

/-! ## What is published -/

/-- What a call publishes, if it publishes anything. -/
def Call.publication? : Call ν → Option (Text × ν)
  | publish name value => some (name, value)
  | lookup _ => none
  | execute _ => none

/-- What the calls of a record publish, in order. -/
def Call.publications (calls : List (Call ν)) : Entries ν :=
  calls.filterMap publication?

theorem Call.publications_append (calls : List (Call ν)) (call : Call ν) :
    publications (calls ++ [call]) = publications calls ++ call.publication?.toList := by
  rw [publications, List.filterMap_append]
  cases published : call.publication? <;> simp [publications, published]

/-- The bindings of a session are those it held at first, overridden by what
its calls have published. -/
theorem Session.preserves_overridden (host : Host κ) (scope : Scope) (held : Store Text) :
    Evaluator.Preserves scope
      (fun state => state.1.bindings = held.insertAll (Call.publications state.2))
      (evaluator host).recorded where
  execute := by
    rintro code ⟨session, calls⟩ overridden
    rw [Evaluator.stateLeft_recorded_execute, stateLeft_execute, Call.publications_append]
    simpa [Call.publication?] using overridden
  lookup := by
    rintro - name ⟨session, calls⟩ overridden
    simp only [Evaluator.recorded, evaluator, Call.publications_append]
    simpa [Call.publication?] using overridden
  publish := by
    rintro name value ⟨session, calls⟩ overridden
    change session.bindings = _ at overridden
    simp only [Evaluator.recorded, evaluator, Session.publish, Call.publications_append,
      overridden]
    simp [Call.publication?, Store.insertAll]

/-! ## Isolation -/

/-- A template of its own scope is built without asking any evaluator for a
value.  With a host whose answers do not depend on the bindings it is shown,
sessions that differ in their bindings alone see the same build: the same text
or fault, the same calls and as many executions; and what these calls publish
overrides the bindings of each. -/
theorem Template.build_isolated (template : Template) (own : template.scope = .build) :
    (∀ {σ ν ε : Type} (evaluator : Evaluator σ ν ε) (state : σ) (name : Text),
      .lookup name ∉ template.calls evaluator state) ∧
    ∀ {κ : Type} (host : Host κ) (session : Session κ), host.Oblivious session.memory →
      ∀ first second : Store Text,
        let calls bindings :=
          template.calls (Session.evaluator host) { session with bindings }
        let outcome bindings :=
          template.build (Session.evaluator host) { session with bindings }
        calls first = calls second ∧
          answer (outcome first) = answer (outcome second) ∧
          (stateLeft (outcome first)).executions = (stateLeft (outcome second)).executions ∧
          (stateLeft (outcome first)).bindings =
            first.insertAll (Call.publications (calls first)) ∧
          (stateLeft (outcome second)).bindings =
            second.insertAll (Call.publications (calls first)) := by
  constructor
  · intro σ ν ε evaluator state
    have preserves := evaluator.preserves_unasked
    rw [← own] at preserves
    have unasked : Unasked (template.calls evaluator state) := preserves.build (by simp [Unasked])
    exact unasked
  · intro κ host session oblivious first second calls outcome
    let started (bindings : Store Text) : Session κ := { session with bindings }
    -- the records are compared along with the sessions, for they show the calls
    have start : Session.Abreast host (started first, []) (started second, []) :=
      ⟨rfl, oblivious, rfl, rfl⟩
    have simulates := Session.simulates_abreast host
    rw [← own] at simulates
    have abreast := alike_iff.mp (simulates.build start)
    have unrecorded (bindings : Store Text) : outcome bindings = seen Prod.fst _ :=
      ((Session.evaluator host).recorded_seenAs).build template (started bindings, [])
    have overridden (bindings : Store Text) :
        (stateLeft (outcome bindings)).bindings =
          bindings.insertAll (Call.publications (calls bindings)) := by
      rw [unrecorded, stateLeft_seen]
      exact (Session.preserves_overridden host template.scope bindings).build rfl
    have sameCalls : calls first = calls second := abreast.2.calls
    refine ⟨sameCalls, ?_, ?_, overridden first, ?_⟩
    · rw [unrecorded, unrecorded, answer_seen, answer_seen]
      exact abreast.1
    · rw [unrecorded, unrecorded, stateLeft_seen, stateLeft_seen]
      exact abreast.2.executions
    · rw [sameCalls]
      exact overridden second

/-- A host that remembers the bindings it was shown still answers as if it had
not seen them, and what was bound before to the names of a template, blank or
not, does not show. -/
theorem Template.build_isolated_stale :
    let host : Host (List (Store Text)) := fun code bindings log => .ok code (log ++ [bindings])
    let session : Session (List (Store Text)) := { memory := [] }
    let template : Template :=
      { segments := [.code ⟨['a'], some ['x']⟩, .code ⟨['b'], some [' ']⟩,
          .code ⟨['c'], some ['x']⟩]
        scope := .build }
    let stale : Store Text := (Store.empty.insert ['x'] ['o']).insert [' '] ['p']
    template.scope = .build ∧ host.Oblivious session.memory ∧
      answer (template.build (Session.evaluator host) { session with bindings := stale }) =
        .ok ['a', 'b', 'a'] ∧
      .lookup ['x'] ∉ template.calls (Session.evaluator host) session := by
  intro host session template stale
  have echoes (handed : List (Text × Store Text)) (log : List (Store Text)) :
      host.answers handed log = handed.map fun entry => .ok entry.1 := by
    induction handed generalizing log with
    | nil => rfl
    | cons entry later ih => exact congrArg (.ok entry.1 :: ·) (ih _)
  have oblivious : host.Oblivious session.memory := by
    intro handed otherHanded same
    have answers := congrArg (List.map fun code => (.ok code : Except Fault Text)) same
    rw [echoes, echoes]
    simpa [Function.comp_def] using answers
  obtain ⟨unasked, parallel⟩ := Template.build_isolated template rfl
  have fresh := (parallel host session oblivious stale .empty).2.1
  exact ⟨rfl, oblivious, fresh, unasked _ _ _⟩

end Inlay
