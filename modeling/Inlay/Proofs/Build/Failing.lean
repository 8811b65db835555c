import Inlay.Proofs.Build.Views
import Mathlib.Data.List.Induction

/-!
# Where a build fails

A build that fails was stopped by one of its fragments: the segments in front
of it were built, nothing that was published answered for it, and executing its
code failed.  What is behind that fragment plays no part, and neither does
publishing, because the failed execution is the last call that is made.

To see this, a build is continued behind some of its segments.  If they were
built, the others are built from the state that was reached, and what can be
found by then are the names published before; if they failed, the whole fails.
-/

namespace Inlay

open Sequence

variable {σ ν ε : Type}

/-! ## Builds of initial parts -/

namespace Segment

variable {evaluator : Evaluator σ ν ε} {scope : Scope} {published : Store ν}
  {first : List Segment} {state reached : σ} {built : Text} {error : ε}

/-- Behind segments that were built, the build goes on from the state that was
reached, with a value under each of their published names. -/
theorem buildAfter_append_of_ok
    (done : buildAfter evaluator scope published first state = .ok built reached) :
    ∃ noted : Store ν,
      (∀ name, noted.get? name = none ↔
        published.get? name = none ∧ name ∉ publishedNames first) ∧
      ∀ second, buildAfter evaluator scope published (first ++ second) state =
        ((built ++ ·) <$> buildAfter evaluator scope noted second) reached := by
  induction first generalizing published state built with
  | nil =>
      cases done
      exact ⟨published, by simp [publishedNames], fun second => by simp⟩
  | cons segment later ih =>
      cases segment with
      | literal text =>
          rw [buildAfter_literal, map_eq_ok_iff] at done
          obtain ⟨others, laterDone, rfl⟩ := done
          obtain ⟨noted, names, goesOn⟩ := ih laterDone
          refine ⟨noted, names, fun second => ?_⟩
          rw [List.cons_append, buildAfter_literal, map_of_eq (goesOn second)]
          simp
      | code fragment =>
          cases ran : fragment.settle evaluator scope published state with
          | error other left =>
              rw [buildAfter_code_of_error ran] at done
              contradiction
          | ok value settled =>
              rw [buildAfter_code_of_ok ran, map_eq_ok_iff] at done
              obtain ⟨others, laterDone, rfl⟩ := done
              obtain ⟨noted, names, goesOn⟩ := ih laterDone
              refine ⟨noted, ?_, fun second => ?_⟩
              · intro name
                rw [names, Fragment.get?_note, mem_publishedNames_cons, publishedName]
                by_cases own : fragment.publishedName = some name
                · simp [own]
                · simp [own]
              · rw [List.cons_append, buildAfter_code_of_ok ran, map_of_eq (goesOn second)]
                simp

/-- Behind segments that failed, nothing is built. -/
theorem buildAfter_append_of_error
    (failed : buildAfter evaluator scope published first state = .error error reached)
    (second : List Segment) :
    buildAfter evaluator scope published (first ++ second) state = .error error reached := by
  induction first generalizing published state with
  | nil => contradiction
  | cons segment later ih =>
      cases segment with
      | literal text =>
          rw [buildAfter_literal, map_eq_error_iff] at failed
          rw [List.cons_append, buildAfter_literal, map_eq_error_iff]
          exact ih failed
      | code fragment =>
          rw [List.cons_append]
          cases ran : fragment.settle evaluator scope published state with
          | error other left =>
              rw [buildAfter_code_of_error ran] at failed ⊢
              exact failed
          | ok value settled =>
              rw [buildAfter_code_of_ok ran, map_eq_error_iff] at failed ⊢
              exact ih failed

end Segment

/-! ## The fragment that stops a build -/

/-- No published value answers for the fragment behind the given segments: in
the scope of the evaluator there is none under its name, blank or not, and in
that of the build no segment publishes under its name. -/
def Fragment.Unanswered (evaluator : Evaluator σ ν ε) (scope : Scope) (earlier : List Segment)
    (state : σ) (fragment : Fragment) : Prop :=
  match scope with
  | .evaluator => ∀ name, fragment.name = some name → (evaluator.lookup name state).1 = none
  | .build => ∀ name, fragment.publishedName = some name → name ∉ Segment.publishedNames earlier

theorem Fragment.unanswered_iff {evaluator : Evaluator σ ν ε} {scope : Scope}
    {earlier : List Segment} {fragment : Fragment} {state : σ} {published : Store ν}
    (names : ∀ name, published.get? name = none ↔ name ∉ Segment.publishedNames earlier) :
    fragment.Unanswered evaluator scope earlier state ↔
      fragment.answer? evaluator scope published state = none := by
  cases scope with
  | evaluator => simp [Unanswered, answer?, Option.bind_eq_none_iff]
  | build => simp [Unanswered, answer?, Option.bind_eq_none_iff, names]

namespace Segment

/-- The build of the segments is stopped by the fragment at the index: what is
in front of it was built and left the state that was reached, no published
value answers for the fragment, and executing its code, once its name was
looked up, fails. -/
structure StopsAt (evaluator : Evaluator σ ν ε) (scope : Scope) (segments : List Segment)
    (state : σ) (error : ε) (left : σ) (index : Nat) (fragment : Fragment) (reached : σ) :
    Prop where
  front : ∃ built, build evaluator scope (segments.take index) state = .ok built reached
  stands : segments[index]? = some (code fragment)
  unanswered : fragment.Unanswered evaluator scope (segments.take index) reached
  failed :
    let asked := fragment.asked evaluator scope reached
    evaluator.execute (fragment.handed (evaluator.normalizes asked)) asked = .error error left

variable {evaluator : Evaluator σ ν ε} {scope : Scope} {segments : List Segment}
  {state left reached : σ} {error : ε} {index : Nat} {fragment : Fragment}

namespace StopsAt

/-- Whatever is behind the fragment, the build fails in the same way. -/
theorem build_eq_error
    (stops : StopsAt evaluator scope segments state error left index fragment reached)
    (others : List Segment) :
    build evaluator scope (segments.take (index + 1) ++ others) state = .error error left := by
  obtain ⟨built, front⟩ := stops.front
  obtain ⟨noted, names, goesOn⟩ := buildAfter_append_of_ok front
  have silent : fragment.answer? evaluator scope noted reached = none :=
    (Fragment.unanswered_iff (by simpa using names)).mp stops.unanswered
  have settled : fragment.settle evaluator scope noted reached = .error error left := by
    rw [Fragment.settle_of_answer_none silent, Fragment.evaluate_apply]
    exact stops.failed
  have taken : segments.take (index + 1) ++ others =
      segments.take index ++ code fragment :: others := by
    rw [List.take_add_one, stops.stands]
    simp
  rw [taken, build, goesOn, map_eq_error_iff]
  exact buildAfter_code_of_error settled

theorem build_take
    (stops : StopsAt evaluator scope segments state error left index fragment reached)
    {length : Nat} (behind : index < length) :
    build evaluator scope (segments.take length) state = .error error left := by
  obtain ⟨others, split⟩ : segments.take (index + 1) <+: segments.take length :=
    List.take_prefix_take_left behind
  rw [← split]
  exact stops.build_eq_error others

/-- A build is stopped in one place. -/
theorem unique {otherError : ε} {otherLeft otherReached : σ} {otherIndex : Nat}
    {otherFragment : Fragment}
    (stops : StopsAt evaluator scope segments state error left index fragment reached)
    (stopsToo : StopsAt evaluator scope segments state otherError otherLeft otherIndex
      otherFragment otherReached) : otherIndex = index := by
  obtain ⟨built, front⟩ := stops.front
  obtain ⟨otherBuilt, otherFront⟩ := stopsToo.front
  rcases Nat.lt_trichotomy otherIndex index with before | same | after
  · rw [stopsToo.build_take before] at front
    contradiction
  · exact same
  · rw [stops.build_take after] at otherFront
    contradiction

/-- The fragment stops the build also if there are other segments behind. -/
theorem append
    (stops : StopsAt evaluator scope segments state error left index fragment reached)
    (others : List Segment) :
    StopsAt evaluator scope (segments ++ others) state error left index fragment reached := by
  have inside : index < segments.length := (List.getElem?_eq_some_iff.mp stops.stands).1
  have taken : (segments ++ others).take index = segments.take index :=
    List.take_append_of_le_length (Nat.le_of_lt inside)
  refine ⟨taken ▸ stops.front, ?_, taken ▸ stops.unanswered, stops.failed⟩
  rw [List.getElem?_append_left inside]
  exact stops.stands

end StopsAt

/-- A single segment whose build fails is a fragment that nothing answers for
and whose execution fails. -/
theorem exists_of_buildAfter_singleton_eq_error {published : Store ν} {segment : Segment}
    (failed : buildAfter evaluator scope published [segment] state = .error error left) :
    ∃ fragment, segment = code fragment ∧
      fragment.answer? evaluator scope published state = none ∧
        let asked := fragment.asked evaluator scope state
        evaluator.execute (fragment.handed (evaluator.normalizes asked)) asked =
          .error error left := by
  cases segment with
  | literal text => contradiction
  | code fragment =>
      cases settled : fragment.settle evaluator scope published state with
      | ok value reached =>
          rw [buildAfter_code_of_ok settled] at failed
          contradiction
      | error other reached =>
          rw [buildAfter_code_of_error settled] at failed
          cases failed
          exact ⟨fragment, rfl, Fragment.of_settle_eq_error settled⟩

/-- A build that fails was stopped by one of its fragments. -/
theorem exists_stopsAt (failed : build evaluator scope segments state = .error error left) :
    ∃ index fragment reached,
      StopsAt evaluator scope segments state error left index fragment reached := by
  -- from the last segment, since a build fails either in front of it or there
  induction segments using List.reverseRecOn with
  | nil => contradiction
  | append_singleton front last ih =>
      cases ran : build evaluator scope front state with
      | error other reached =>
          rw [build, buildAfter_append_of_error ran] at failed
          cases failed
          obtain ⟨index, fragment, middle, stops⟩ := ih ran
          exact ⟨index, fragment, middle, stops.append [last]⟩
      | ok built reached =>
          obtain ⟨noted, names, goesOn⟩ := buildAfter_append_of_ok ran
          rw [build, goesOn, map_eq_error_iff] at failed
          obtain ⟨fragment, rfl, silent, executed⟩ :=
            exists_of_buildAfter_singleton_eq_error failed
          have taken : (front ++ [code fragment]).take front.length = front := by simp
          refine ⟨front.length, fragment, reached, ?_, by simp, ?_, executed⟩
          · rw [taken]
            exact ⟨built, ran⟩
          · rw [taken]
            exact (Fragment.unanswered_iff (by simpa using names)).mpr silent

end Segment

/-! ## The calls of a build that fails -/

/-- The calls that hand the fragment to an evaluator: its name is looked up, if
there is one to look up, and its code is executed. -/
def Fragment.handing (scope : Scope) (normalizes : Bool) (fragment : Fragment) : List (Call ν) :=
  (fragment.question scope).toList.map .lookup ++ [.execute (fragment.handed normalizes)]

theorem Fragment.publish_not_mem_handing (scope : Scope) (normalizes : Bool) (fragment : Fragment)
    (name : Text) (value : ν) : .publish name value ∉ fragment.handing scope normalizes := by
  simp [handing]

/-- Where looking up leaves the state alone, asking does. -/
theorem Fragment.asked_eq_self {evaluator : Evaluator σ ν ε} {state : σ} (scope : Scope)
    (fragment : Fragment) (unchanged : ∀ name, (evaluator.lookup name state).2 = state) :
    fragment.asked evaluator scope state = state := by
  cases looks : fragment.question scope with
  | none => simp only [asked, looks]
  | some name => simp only [asked, looks, unchanged]

theorem Fragment.asked_recorded (evaluator : Evaluator σ ν ε) (scope : Scope)
    (fragment : Fragment) (state : σ) (calls : List (Call ν)) :
    fragment.asked evaluator.recorded scope (state, calls) =
      (fragment.asked evaluator scope state,
        calls ++ (fragment.question scope).toList.map .lookup) := by
  cases looks : fragment.question scope with
  | none => simp [asked, looks]
  | some name => simp [asked, looks, Evaluator.recorded]

namespace Segment

variable {evaluator : Evaluator σ ν ε} {scope : Scope} {segments : List Segment}
  {state left reached : σ} {error : ε} {index : Nat} {fragment : Fragment}

/-- Behind the calls for the segments in front of it, the fragment that stops a
build is handed to the evaluator, and no call is made after that. -/
theorem StopsAt.recorded
    (stops : StopsAt evaluator scope segments state error left index fragment reached) :
    ∃ built calls,
      build evaluator.recorded scope (segments.take index) (state, []) =
          .ok built (reached, calls) ∧
        build evaluator.recorded scope segments (state, []) =
          .error error (left, calls ++
            fragment.handing scope
              (evaluator.normalizes (fragment.asked evaluator scope reached))) := by
  obtain ⟨built, front⟩ := stops.front
  have seenFront : build evaluator scope (segments.take index) state = seen Prod.fst _ :=
    evaluator.recorded_seenAs.build ⟨segments.take index, [], scope, {}⟩ (state, [])
  rw [front] at seenFront
  cases ran : Template.build evaluator.recorded ⟨segments.take index, [], scope, {}⟩
    (state, []) with
  | error other middle =>
      rw [ran] at seenFront
      contradiction
  | ok sameBuilt middle =>
      rw [ran] at seenFront
      cases seenFront
      obtain ⟨reached, calls⟩ := middle
      refine ⟨built, calls, ran, ?_⟩
      have stopsRecorded : StopsAt evaluator.recorded scope segments (state, []) error
          (left, calls ++ fragment.handing scope
            (evaluator.normalizes (fragment.asked evaluator scope reached)))
          index fragment (reached, calls) := by
        refine ⟨⟨built, ran⟩, stops.stands, ?_, ?_⟩
        · cases scope <;> exact stops.unanswered
        · have failed := stops.failed
          simp only at failed
          simp only [Fragment.asked_recorded, Fragment.handing]
          simp only [Evaluator.recorded, failed, List.append_assoc]
      have failing := stopsRecorded.build_eq_error (segments.drop (index + 1))
      rwa [List.take_append_drop] at failing

/-- A build that fails was stopped by exactly one of its fragments, which no
published value answered for and whose execution failed with the same error and
left the same state; the execution starts from the state behind the segments in
front, if looking up a name leaves it alone.  The fragment was handed to the
evaluator behind the calls for these segments, without any publishing, and
other segments behind it would have made no difference.  Conversely, a build
fails as soon as one of its initial parts does, with the same error and the same
state. -/
theorem build_stops_at_first_failure (evaluator : Evaluator σ ν ε) (scope : Scope)
    (segments : List Segment) (state : σ) :
    (∀ error left, build evaluator scope segments state = .error error left →
      ∃ index fragment reached,
        let handing := fragment.handing scope
          (evaluator.normalizes (fragment.asked evaluator scope reached))
        StopsAt evaluator scope segments state error left index fragment reached ∧
        ((∀ name, (evaluator.lookup name reached).2 = reached) →
          evaluator.execute (fragment.handed (evaluator.normalizes reached)) reached =
            .error error left) ∧
        (∀ other otherFragment otherReached,
          StopsAt evaluator scope segments state error left other otherFragment otherReached →
            other = index) ∧
        (∃ built calls,
          build evaluator.recorded scope (segments.take index) (state, []) =
              .ok built (reached, calls) ∧
            build evaluator.recorded scope segments (state, []) =
              .error error (left, calls ++ handing)) ∧
        (∀ name value, .publish name value ∉ handing) ∧
        ∀ others,
          build evaluator scope (segments.take (index + 1) ++ others) state =
            .error error left) ∧
    ∀ length error left, build evaluator scope (segments.take length) state = .error error left →
      build evaluator scope segments state = .error error left := by
  constructor
  · intro error left failed
    obtain ⟨index, fragment, reached, stops⟩ := exists_stopsAt failed
    refine ⟨index, fragment, reached, stops, ?_, ?_, stops.recorded, ?_, stops.build_eq_error⟩
    · intro unchanged
      rw [← fragment.asked_eq_self scope unchanged]
      exact stops.failed
    · intro other otherFragment otherReached stopsToo
      exact stops.unique stopsToo
    · intro name value
      exact fragment.publish_not_mem_handing scope _ name value
  · intro length error left failed
    have whole := buildAfter_append_of_error failed (segments.drop length)
    rwa [List.take_append_drop] at whole

/-- A fragment with a blank name fails behind one that has published its value,
and a third is not executed. -/
theorem build_stops_at_first_failure_blank :
    let fussy : Evaluator (List (Text × Text)) Text Text :=
      { execute := fun code held => if code = ['!'] then .error code held else .ok code held
        lookup := fun name held => (held.lookup name, held)
        publish := fun name value held => (name, value) :: held
        shown := id }
    let segments := [code ⟨['a'], some ['x']⟩, literal ['-'], code ⟨['b'], some ['x']⟩,
      code ⟨['!'], some [' ']⟩, code ⟨['c'], none⟩]
    build fussy .evaluator segments [] = .error ['!'] [(['x'], ['a']), (['x'], ['a'])] ∧
      ∀ others, build fussy .evaluator (segments.take 4 ++ others) [] =
        .error ['!'] [(['x'], ['a']), (['x'], ['a'])] := by
  intro fussy segments
  have failed : build fussy .evaluator segments [] =
      .error ['!'] [(['x'], ['a']), (['x'], ['a'])] := by rfl
  refine ⟨failed, ?_⟩
  obtain ⟨index, fragment, reached, stops, -, once, -, -, replaced⟩ :=
    (build_stops_at_first_failure fussy .evaluator segments []).1 _ _ failed
  have here : StopsAt fussy .evaluator segments [] ['!'] [(['x'], ['a']), (['x'], ['a'])] 3
      ⟨['!'], some [' ']⟩ [(['x'], ['a']), (['x'], ['a'])] :=
    ⟨⟨['a', '-', 'a'], rfl⟩, rfl, by simp [Fragment.Unanswered, fussy], rfl⟩
  rwa [← once 3 _ _ here] at replaced

end Segment

end Inlay
