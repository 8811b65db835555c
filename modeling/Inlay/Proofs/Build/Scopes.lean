import Inlay.Proofs.Build.Executions

/-!
# Builds in the two scopes

The two scopes look for the value of a fragment in different places: in what
the evaluator holds, under any name, or in what the build has published, under
a name that is not blank.  With an evaluator that holds nothing under the names
of the segments, both places have the same to offer at every fragment, because
publishing puts the same value into both.  So the builds are the same, except
that one of them looks up names in vain.
-/

namespace Inlay

open Sequence

variable {σ ν ε κ : Type}

/-! ## Evaluators with a store -/

/-- The evaluator keeps what is published in a store: looking up reads the
store, and only publishing changes it. -/
structure Evaluator.Keeps (evaluator : Evaluator σ ν ε) (store : σ → Store ν) : Prop where
  execute : ∀ code state, store (stateLeft (evaluator.execute code state)) = store state
  lookup : ∀ name state, evaluator.lookup name state = ((store state).get? name, state)
  publish : ∀ name value state,
    store (evaluator.publish name value state) = (store state).insert name value

/-- Under these names the evaluator holds what the build has published, and
nothing if the name is blank. -/
def Mirrors (names : List Text) (published held : Store ν) : Prop :=
  ∀ name ∈ names, held.get? name = if name.isBlank then none else published.get? name

/-- What a fragment publishes goes into both stores. -/
theorem Mirrors.note {names : List Text} {published held : Store ν}
    (mirrors : Mirrors names published held) (fragment : Fragment) (value : ν) :
    Mirrors names (fragment.note value published) (fragment.note value held) := by
  intro name mem
  rw [Fragment.get?_note, Fragment.get?_note, mirrors name mem]
  by_cases named : fragment.publishedName = some name
  · have visible := (Fragment.publishedName_eq_some_iff.mp named).2
    simp [named, visible]
  · simp [named]

namespace Evaluator.Keeps

variable {evaluator : Evaluator σ ν ε} {store : σ → Store ν} {published other : Store ν}
  {fragment : Fragment} {state reached : σ} {value : ν}

theorem announce (keeps : evaluator.Keeps store) (fragment : Fragment) (value : ν) (state : σ) :
    store (fragment.announce evaluator value state) = fragment.note value (store state) := by
  cases named : fragment.publishedName with
  | none => simp only [Fragment.announce, Fragment.note, named]
  | some name => simp only [Fragment.announce, Fragment.note, named, keeps.publish]

/-- Settling a fragment publishes nothing. -/
theorem settle (keeps : evaluator.Keeps store)
    (settled : fragment.settle evaluator .build published state = .ok value reached) :
    store reached = store state := by
  cases holds : fragment.publishedName.bind published.get? with
  | none =>
      rw [Fragment.settle_build_of_none holds, fragment.evaluate_apply] at settled
      have kept := keeps.execute (fragment.handed (evaluator.normalizes state)) state
      rwa [settled] at kept
  | some value =>
      rw [Fragment.settle_build_of_some holds] at settled
      cases settled
      rfl

/-- A fragment gets the same value in both scopes. -/
theorem settle_scopes_agree (keeps : evaluator.Keeps store)
    (mirrors : ∀ name, fragment.name = some name →
      (store state).get? name = if name.isBlank then none else published.get? name) :
    fragment.settle evaluator .build published state =
      fragment.settle evaluator .evaluator other state := by
  change _ = fragment.resolve evaluator state
  cases named : fragment.name with
  | none =>
      rw [Fragment.settle_build_of_none (by simp [Fragment.publishedName, named]),
        Fragment.resolve_of_anonymous named]
  | some name =>
      have looks := keeps.lookup name state
      rw [mirrors name named] at looks
      cases blank : name.isBlank with
      | true =>
          -- a blank name is looked up in vain, since nothing is published under it
          rw [blank] at looks
          rw [Fragment.settle_build_of_none (by simp [Fragment.publishedName, named, blank]),
            Fragment.resolve_of_lookup_none named looks]
      | false =>
          rw [blank] at looks
          have effective : fragment.publishedName.bind published.get? = published.get? name := by
            rw [Fragment.publishedName_eq_some_iff.mpr ⟨named, blank⟩, Option.bind_some]
          cases holds : published.get? name with
          | none =>
              rw [holds] at looks effective
              rw [Fragment.settle_build_of_none effective,
                Fragment.resolve_of_lookup_none named looks]
          | some value =>
              rw [holds] at looks effective
              rw [Fragment.settle_build_of_some effective,
                Fragment.resolve_of_lookup_some named looks]
              rfl

/-- Segments are built in the same way in both scopes, as long as one store
mirrors the other. -/
theorem buildAfter_scopes_agree (keeps : evaluator.Keeps store) {segments : List Segment}
    (mirrors : Mirrors (Segment.names segments) published (store state)) :
    Segment.buildAfter evaluator .build published segments state =
      Segment.buildAfter evaluator .evaluator other segments state := by
  induction segments generalizing published other state with
  | nil => rfl
  | cons segment later ih =>
      cases segment with
      | literal text =>
          rw [Segment.buildAfter_literal, Segment.buildAfter_literal]
          exact map_of_eq (ih mirrors)
      | code fragment =>
          have settled : fragment.settle evaluator .build published state =
              fragment.settle evaluator .evaluator other state := by
            apply keeps.settle_scopes_agree
            intro name named
            exact mirrors name (by simp [Segment.names, Segment.name?, named])
          cases ran : fragment.settle evaluator .build published state with
          | error error reached =>
              rw [Segment.buildAfter_code_of_error ran,
                Segment.buildAfter_code_of_error (settled ▸ ran)]
          | ok value reached =>
              rw [Segment.buildAfter_code_of_ok ran, Segment.buildAfter_code_of_ok (settled ▸ ran)]
              apply map_of_eq
              apply ih
              rw [keeps.announce, keeps.settle ran]
              apply Mirrors.note
              intro name mem
              exact mirrors name (Segment.mem_names_cons_of_mem mem)

theorem build_of_unknown (keeps : evaluator.Keeps store) {template : Template}
    (unknown : ∀ name ∈ Segment.names template.segments, (store state).get? name = none) :
    { template with scope := .build }.build evaluator state =
      { template with scope := .evaluator }.build evaluator state := by
  apply keeps.buildAfter_scopes_agree
  intro name mem
  simp [unknown name mem]

end Evaluator.Keeps

/-- A session keeps its bindings. -/
theorem Session.keeps_bindings (host : Host κ) :
    (Session.evaluator host).Keeps Session.bindings where
  execute := by simp
  lookup := fun _ _ => rfl
  publish := fun _ _ _ => rfl

/-! ## The calls that look nothing up -/

/-- Whether a call does more than to look up a name. -/
def Call.acts : Call ν → Bool
  | lookup _ => false
  | execute _ => true
  | publish _ _ => true

/-- The evaluator that keeps a record of the calls that do more than to look up
a name. -/
def Evaluator.acting (evaluator : Evaluator σ ν ε) : Evaluator (σ × List (Call ν)) ν ε :=
  { evaluator.recorded with
    lookup := fun name (state, calls) =>
      let (value, next) := evaluator.lookup name state
      (value, next, calls) }

/-- The shorter record is the longer one without the names looked up. -/
theorem Evaluator.recorded_seenAs_acting (evaluator : Evaluator σ ν ε) :
    evaluator.recorded.SeenAs evaluator.acting
      (fun state => (state.1, state.2.filter Call.acts)) where
  execute := by
    rintro code ⟨state, calls⟩
    apply ext <;> simp [acting, List.filter_cons, Call.acts]
  lookup := by
    rintro name ⟨state, calls⟩
    simp [recorded, acting, Call.acts]
  publish := by
    rintro name value ⟨state, calls⟩
    simp [recorded, acting, List.filter_cons, Call.acts]
  shown := rfl
  normalizes := fun _ => rfl

/-- A record beside the state changes nothing about the store. -/
theorem Evaluator.Keeps.acting {evaluator : Evaluator σ ν ε} {store : σ → Store ν}
    (keeps : evaluator.Keeps store) : evaluator.acting.Keeps (fun state => store state.1) where
  execute := by
    rintro code ⟨state, calls⟩
    rw [Evaluator.acting, stateLeft_recorded_execute]
    exact keeps.execute code state
  lookup := by
    rintro name ⟨state, calls⟩
    simp only [Evaluator.acting, keeps.lookup]
  publish := by
    rintro name value ⟨state, calls⟩
    exact keeps.publish name value state

theorem Template.calls_filter_acts (evaluator : Evaluator σ ν ε) (template : Template) (state : σ) :
    (template.calls evaluator state).filter Call.acts =
      (stateLeft (template.build evaluator.acting (state, []))).2 := by
  have seenActing := evaluator.recorded_seenAs_acting.build template (state, [])
  have left := congrArg (fun outcome => (stateLeft outcome).2) seenActing
  rw [stateLeft_seen] at left
  exact left.symm

/-- In a session that holds nothing under the names of a template, blank or not,
the scope of the build makes no difference: it ends in the same text or fault
and leaves the same session, and the same codes are executed and the same texts
published in the same order. -/
theorem Template.build_scopes_agree (host : Host κ) (template : Template) (session : Session κ)
    (unknown : ∀ name ∈ Segment.names template.segments, session.bindings.get? name = none) :
    let own : Template := { template with scope := .build }
    let wide : Template := { template with scope := .evaluator }
    own.build (Session.evaluator host) session = wide.build (Session.evaluator host) session ∧
      (own.calls (Session.evaluator host) session).filter Call.acts =
        (wide.calls (Session.evaluator host) session).filter Call.acts := by
  intro own wide
  have keeps := Session.keeps_bindings host
  refine ⟨keeps.build_of_unknown unknown, ?_⟩
  have same : own.build (Session.evaluator host).acting (session, []) =
      wide.build (Session.evaluator host).acting (session, []) :=
    keeps.acting.build_of_unknown unknown
  rw [own.calls_filter_acts, wide.calls_filter_acts, same]

/-- With a blank name and a name that comes twice, in a session that holds
something else. -/
theorem Template.build_scopes_agree_repeated :
    let host : Host Nat := fun code bindings count =>
      .ok (code ++ ((bindings.get? ['x']).getD [])) (count + 1)
    let session : Session Nat := { memory := 0, bindings := Store.empty.insert ['y'] ['o'] }
    let template : Template := Template.ofSegments
      [.code ⟨['a'], some ['x']⟩, .code ⟨['b'], some [' ']⟩, .code ⟨['c'], some ['x']⟩]
    (∀ name ∈ Segment.names template.segments, session.bindings.get? name = none) ∧
      answer ({ template with scope := .evaluator }.build (Session.evaluator host) session) =
        .ok ['a', 'b', 'a', 'a'] := by
  intro host session template
  have unknown : ∀ name ∈ Segment.names template.segments, session.bindings.get? name = none := by
    decide
  refine ⟨unknown, ?_⟩
  rw [← (Template.build_scopes_agree host template session unknown).1]
  rfl

end Inlay
