import Inlay.Proofs.Build.Concatenation
import Inlay.Proofs.Build.Sessions

/-!
# What a session holds

In the scope of the evaluator a build never changes what a session holds under
a name, nor does any of its parts.  A fragment that has contributed a text is
bound to it from then on, and a fragment whose name is bound contributes the
bound text and leaves the session as it is.
-/

namespace Inlay

open Sequence

variable {κ ν : Type}

/-! ## Stores that extend others -/

namespace Store

/-- Whatever the other store holds under a name, this one holds under it. -/
def Extends (store other : Store ν) : Prop :=
  ∀ name value, other.get? name = some value → store.get? name = some value

variable {first second third : Store ν}

theorem Extends.refl (store : Store ν) : store.Extends store :=
  fun _ _ held => held

theorem Extends.trans (later : third.Extends second) (earlier : second.Extends first) :
    third.Extends first :=
  fun name value held => later name value (earlier name value held)

end Store

/-! ## Single fragments -/

namespace Fragment

variable {host : Host κ} {published : Store Text} {fragment : Fragment} {name value : Text}
  {session reached : Session κ}

/-- Settling a fragment publishes nothing. -/
theorem bindings_settle (host : Host κ) (scope : Scope) (published : Store Text)
    (fragment : Fragment) (session : Session κ) :
    (stateLeft (fragment.settle (Session.evaluator host) scope published session)).bindings =
      session.bindings := by
  cases found : fragment.found scope published session.bindings with
  | some value => rw [settle_of_found found, stateLeft]
  | none =>
      have left := Session.stateLeft_execute host (fragment.handed session.normalizes) session
      rw [settle_of_not_found found]
      exact (congrArg Session.bindings left).trans rfl

/-- A fragment whose name is bound is settled with the bound text. -/
theorem settle_of_bound (host : Host κ) (published : Store Text)
    (named : fragment.publishedName = some name)
    (bound : session.bindings.get? name = some value) :
    fragment.settle (Session.evaluator host) .evaluator published session = .ok value session :=
  settle_of_found ((found_of_publishedName named).trans bound)

/-- Publishing the value that a fragment was settled with changes no binding. -/
theorem extends_note_of_settle
    (settled : fragment.settle (Session.evaluator host) .evaluator published session =
      .ok value reached) :
    (fragment.note value reached.bindings).Extends session.bindings := by
  have kept := bindings_settle host .evaluator published fragment session
  rw [settled, stateLeft] at kept
  intro name held bound
  rw [get?_note, kept]
  by_cases named : fragment.publishedName = some name
  · rw [settle_of_bound host published named bound] at settled
    cases settled
    rw [if_pos named]
  · rwa [if_neg named]

end Fragment

/-! ## Builds in the scope of the evaluator -/

namespace Session

variable {host : Host κ} {fragment : Fragment} {name text built : Text}
  {session reached next : Session κ} {first second segments : List Segment} {fault : Fault}

/-- Build segments in a session, in the scope of the evaluator. -/
def build (host : Host κ) (segments : List Segment) : EStateM Fault (Session κ) Text :=
  Segment.build (evaluator host) .evaluator segments

theorem build_append_eq_bind (host : Host κ) (first second : List Segment) :
    build host (first ++ second) = (do
      let front ← build host first
      (front ++ ·) <$> build host second) :=
  Segment.buildAfter_append (by simp)

theorem build_append_of_ok (done : build host first session = .ok built reached) :
    build host (first ++ second) session = ((built ++ ·) <$> build host second) reached := by
  rw [build_append_eq_bind, bind_of_ok done]

theorem build_append_of_error (failed : build host first session = .error fault reached) :
    build host (first ++ second) session = .error fault reached := by
  rw [build_append_eq_bind, bind_of_error failed]

/-- Behind the segments in front of an index, the segment at the index is built
alone. -/
theorem build_take_add_one {index : Nat} {segment : Segment}
    (stands : segments[index]? = some segment)
    (front : build host (segments.take index) session = .ok built reached) :
    build host (segments.take (index + 1)) session =
      ((built ++ ·) <$> build host [segment]) reached := by
  rw [List.take_add_one, stands, Option.toList_some, build_append_of_ok front]

/-- A build changes nothing that the session holds. -/
theorem extends_build (host : Host κ) (segments : List Segment) (session : Session κ) :
    (stateLeft (build host segments session)).bindings.Extends session.bindings := by
  rw [build, Segment.build]
  generalize (Store.empty : Store Text) = published
  induction segments generalizing published session with
  | nil => exact .refl session.bindings
  | cons segment later ih =>
      cases segment with
      | literal text =>
          rw [Segment.buildAfter_literal, stateLeft_map]
          exact ih session published
      | code fragment =>
          cases settled : fragment.settle (evaluator host) .evaluator published session with
          | error fault reached =>
              have kept := fragment.bindings_settle host .evaluator published session
              rw [settled, stateLeft] at kept
              rw [Segment.buildAfter_code_of_error settled, stateLeft, kept]
              exact .refl session.bindings
          | ok value reached =>
              rw [Segment.buildAfter_code_of_ok settled, stateLeft_map,
                Fragment.announce_session]
              exact (ih _ _).trans (Fragment.extends_note_of_settle settled)

/-- What a session holds behind some segments, it holds behind others that
follow them. -/
theorem extends_build_append (host : Host κ) (first second : List Segment) (session : Session κ) :
    (stateLeft (build host (first ++ second) session)).bindings.Extends
      (stateLeft (build host first session)).bindings := by
  cases ran : build host first session with
  | error fault reached =>
      rw [build_append_of_error ran]
      exact .refl reached.bindings
  | ok built reached =>
      rw [build_append_of_ok ran, stateLeft_map]
      exact extends_build host second reached

/-- What a session holds behind some of the segments, it holds behind more of
them. -/
theorem extends_build_take (host : Host κ) (segments : List Segment) (session : Session κ)
    {length more : Nat} (noLess : length ≤ more) :
    (stateLeft (build host (segments.take more) session)).bindings.Extends
      (stateLeft (build host (segments.take length) session)).bindings := by
  obtain ⟨others, split⟩ : segments.take length <+: segments.take more :=
    List.take_prefix_take_left noLess
  rw [← split]
  exact extends_build_append host _ others session

/-- A fragment is bound to the text that it has contributed. -/
theorem get?_of_build_code (passed : build host [.code fragment] session = .ok text next)
    (named : fragment.publishedName = some name) : next.bindings.get? name = some text := by
  rw [build, Segment.build] at passed
  cases settled : fragment.settle (evaluator host) .evaluator .empty session with
  | error fault reached =>
      rw [Segment.buildAfter_code_of_error settled] at passed
      contradiction
  | ok value reached =>
      rw [Segment.buildAfter_code_of_ok settled, Fragment.announce_session,
        Segment.buildAfter_nil, map_pure] at passed
      cases passed
      simp [Fragment.get?_note, named, evaluator]

/-- A fragment whose name is bound contributes the bound text, and leaves the
session as it is. -/
theorem build_code_of_bound (host : Host κ) (named : fragment.publishedName = some name)
    (bound : session.bindings.get? name = some text) :
    build host [.code fragment] session = .ok text session := by
  have settled := Fragment.settle_of_bound host .empty named bound
  have noted : fragment.note text session.bindings = session.bindings := by
    simp only [Fragment.note, named, Store.insert_eq_self bound]
  rw [build, Segment.build, Segment.buildAfter_code_of_ok settled, Fragment.announce_session,
    noted, Segment.buildAfter_nil, map_pure]
  simp [evaluator, pure, EStateM.pure]

/-! ## Contributions -/

/-- The fragment at the index and the text that it contributes, if the build of
the segments gets past it: what is built with it but not without it. -/
def passed? (host : Host κ) (segments : List Segment) (session : Session κ) (index : Nat) :
    Option (Fragment × Text) :=
  match segments[index]?, build host (segments.take index) session,
      build host (segments.take (index + 1)) session with
  | some (.code fragment), .ok front _, .ok built _ => some (fragment, built.drop front.length)
  | _, _, _ => none

/-- Getting past a fragment is to build it alone, behind what is in front of
it. -/
theorem passed?_eq_some_iff {index : Nat} :
    passed? host segments session index = some (fragment, text) ↔
      segments[index]? = some (.code fragment) ∧
        ∃ front reached next, build host (segments.take index) session = .ok front reached ∧
          build host [.code fragment] reached = .ok text next ∧
            build host (segments.take (index + 1)) session = .ok (front ++ text) next := by
  constructor
  · intro passed
    unfold passed? at passed
    split at passed
    · rename_i _ _ fragment front reached built next stands frontRan ran
      cases passed
      have here := ran
      rw [build_take_add_one stands frontRan, map_eq_ok_iff] at here
      obtain ⟨text, here, rfl⟩ := here
      refine ⟨stands, front, reached, next, frontRan, ?_, ?_⟩
      · rwa [List.drop_left]
      · rwa [List.drop_left]
    · contradiction
  · rintro ⟨stands, front, reached, next, frontRan, _, ran⟩
    simp only [passed?, stands, frontRan, ran, List.drop_left]

/-- A build that reaches a fragment and builds it gets past it. -/
theorem passed?_of_build {index : Nat} (stands : segments[index]? = some (.code fragment))
    (front : build host (segments.take index) session = .ok built reached)
    (here : build host [.code fragment] reached = .ok text next) :
    passed? host segments session index = some (fragment, text) := by
  refine passed?_eq_some_iff.mpr ⟨stands, built, reached, next, front, here, ?_⟩
  rw [build_take_add_one stands front, map_of_ok here]

/-- A build that succeeds has got past each of its fragments, and its session
holds their texts. -/
theorem exists_passed?_of_build_eq_ok (done : build host segments session = .ok built reached)
    {index : Nat} (stands : segments[index]? = some (.code fragment)) :
    ∃ text, passed? host segments session index = some (fragment, text) ∧
      ∀ name, fragment.publishedName = some name → reached.bindings.get? name = some text := by
  have part (length : Nat) : ∃ front middle,
      build host (segments.take length) session = .ok front middle ∧
        reached.bindings.Extends middle.bindings := by
    have whole := List.take_append_drop length segments
    cases ran : build host (segments.take length) session with
    | error fault middle =>
        rw [← whole, build_append_of_error ran] at done
        contradiction
    | ok front middle =>
        have keeps := extends_build_append host (segments.take length) (segments.drop length)
          session
        rw [whole, done, ran] at keeps
        exact ⟨front, middle, rfl, keeps⟩
  obtain ⟨front, before, frontRan, _⟩ := part index
  obtain ⟨more, next, ran, keeps⟩ := part (index + 1)
  have here := ran
  rw [build_take_add_one stands frontRan, map_eq_ok_iff] at here
  obtain ⟨text, here, -⟩ := here
  refine ⟨text, passed?_of_build stands frontRan here, fun name named => ?_⟩
  exact keeps name text (get?_of_build_code here named)

end Session

end Inlay
