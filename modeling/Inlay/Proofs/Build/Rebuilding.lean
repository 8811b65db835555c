import Inlay.Proofs.Build.Executions
import Inlay.Proofs.Build.Holding

/-!
# Building again

Once a template was built in the scope of the evaluator, its session holds the
text of every name that the template publishes under.  A second build finds
them all.  It publishes nothing new, shows the same texts for the names, and
executes only the fragments that recur: those that publish under no name and
find nothing under their own, if that is a blank one.
-/

namespace Inlay

open Sequence

variable {κ : Type}

/-! ## Fragments that recur -/

/-- The fragment of a segment, if it is one. -/
def Segment.fragment? : Segment → Option Fragment
  | literal _ => none
  | code fragment => some fragment

/-- The fragment is executed in every build: it publishes under no name, and
nothing is bound to its own. -/
def Fragment.recurs (bindings : Store Text) (fragment : Fragment) : Bool :=
  fragment.publishedName.isNone && (fragment.name.bind bindings.get?).isNone

/-- The fragments that are executed in every build, in order. -/
def Segment.recurring (bindings : Store Text) (segments : List Segment) : List Fragment :=
  (segments.filterMap fragment?).filter (Fragment.recurs bindings)

/-- A fragment whose published name is bound is due exactly if it recurs. -/
theorem Fragment.due_eq_recurs {bindings : Store Text} {fragment : Fragment}
    (bound : ∀ name, fragment.publishedName = some name → bindings.get? name ≠ none)
    (earlier : List Segment) :
    fragment.due .evaluator bindings earlier = fragment.recurs bindings := by
  rcases fragment with ⟨code, name⟩
  cases name with
  | none => simp [due, recurs]
  | some name =>
      cases blank : name.isBlank with
      | true => simp [due, recurs, publishedName, blank]
      | false =>
          have named : publishedName ⟨code, some name⟩ = some name :=
            publishedName_eq_some_iff.mpr ⟨rfl, blank⟩
          simp [due, recurs, named, bound name named]

theorem Segment.due_eq_recurring {bindings : Store Text} {segments : List Segment}
    (bound : ∀ name ∈ publishedNames segments, bindings.get? name ≠ none)
    (earlier : List Segment) :
    due .evaluator bindings earlier segments = recurring bindings segments := by
  induction segments generalizing earlier with
  | nil => rfl
  | cons segment later ih =>
      have behind := ih fun name mem => bound name (mem_publishedNames_cons_of_mem mem)
      cases segment with
      | literal text => exact behind (earlier ++ [.literal text])
      | code fragment =>
          have named (name : Text) (own : fragment.publishedName = some name) :
              bindings.get? name ≠ none :=
            bound name (mem_publishedNames_cons.mpr (.inl own))
          rw [due, Fragment.due_eq_recurs named, behind]
          cases recurs : fragment.recurs bindings with
          | true => simp [recurring, fragment?, recurs]
          | false => simp [recurring, fragment?, recurs]

/-! ## Builds where the names are bound -/

namespace Session

variable {host : Host κ} {session after later : Session κ} {segments : List Segment} {built : Text}

/-- A segment whose published name is bound changes no binding. -/
theorem bindings_build_singleton (host : Host κ) (segment : Segment)
    (bound : ∀ name, segment.publishedName = some name → session.bindings.get? name ≠ none) :
    (stateLeft (build host [segment] session)).bindings = session.bindings := by
  cases segment with
  | literal text => rfl
  | code fragment =>
      cases named : fragment.publishedName with
      | some name =>
          obtain ⟨text, held⟩ := Option.ne_none_iff_exists'.mp (bound name named)
          rw [build_code_of_bound host named held, stateLeft]
      | none =>
          have kept := fragment.bindings_settle host .evaluator .empty session
          rw [build, Segment.build]
          cases settled : fragment.settle (evaluator host) .evaluator .empty session with
          | error fault reached =>
              rw [settled, stateLeft] at kept
              rw [Segment.buildAfter_code_of_error settled, stateLeft, kept]
          | ok value reached =>
              rw [settled, stateLeft] at kept
              rw [Segment.buildAfter_code_of_ok settled, stateLeft_map, Fragment.announce_session]
              simp [stateLeft, Fragment.note, named, kept, pure, EStateM.pure]

/-- Behind a build that succeeded, all published names are bound. -/
theorem get?_ne_none_of_build_eq_ok (done : build host segments session = .ok built after) :
    ∀ name ∈ Segment.publishedNames segments, after.bindings.get? name ≠ none := by
  intro name mem
  obtain ⟨segment, inside, published⟩ := List.mem_filterMap.mp mem
  obtain ⟨index, stands⟩ := List.getElem?_of_mem inside
  cases segment with
  | literal text => contradiction
  | code fragment =>
      obtain ⟨text, _, held⟩ := exists_passed?_of_build_eq_ok done stands
      simp [held name published]

/-- Where all published names are bound, a build changes no binding, even if it
fails. -/
theorem bindings_build_of_bound (host : Host κ)
    (bound : ∀ name ∈ Segment.publishedNames segments, session.bindings.get? name ≠ none) :
    (stateLeft (build host segments session)).bindings = session.bindings := by
  induction segments generalizing session with
  | nil => rfl
  | cons segment others ih =>
      have kept := bindings_build_singleton host segment fun name named =>
        bound name (Segment.mem_publishedNames_cons.mpr (.inl named))
      rw [← List.singleton_append]
      cases ran : build host [segment] session with
      | error fault reached => rwa [build_append_of_error ran, ← ran]
      | ok front reached =>
          rw [ran, stateLeft] at kept
          rw [build_append_of_ok ran, stateLeft_map, ih, kept]
          rw [kept]
          exact fun name mem => bound name (Segment.mem_publishedNames_cons_of_mem mem)

/-- If every fragment has published its text, another build gives the same texts
and leaves the session as it is. -/
theorem build_again (done : build host segments session = .ok built after)
    (named : ∀ fragment, .code fragment ∈ segments → fragment.publishedName ≠ none)
    (keeps : later.bindings.Extends after.bindings) :
    build host segments later = .ok built later := by
  induction segments generalizing session built with
  | nil =>
      cases done
      rfl
  | cons segment others ih =>
      rw [← List.singleton_append] at done ⊢
      cases ran : build host [segment] session with
      | error fault reached =>
          rw [build_append_of_error ran] at done
          contradiction
      | ok front reached =>
          rw [build_append_of_ok ran, map_eq_ok_iff] at done
          obtain ⟨back, behind, rfl⟩ := done
          have othersAgain : build host others later = .ok back later :=
            ih behind fun fragment mem => named fragment (List.mem_cons_of_mem segment mem)
          have again : build host [segment] later = .ok front later := by
            cases segment with
            | literal text =>
                cases ran
                rfl
            | code fragment =>
                obtain ⟨name, published⟩ :=
                  Option.ne_none_iff_exists'.mp (named fragment List.mem_cons_self)
                have kept := extends_build host others reached
                rw [behind] at kept
                exact build_code_of_bound host published
                  (keeps name front (kept name front (get?_of_build_code ran published)))
          rw [build_append_of_ok again, map_of_ok othersAgain]

end Session

/-! ## Building a template again -/

/-- Behind a build of the template in the scope of the evaluator that succeeded,
another build leaves the bindings as they are, also if it fails.  It executes
the recurring fragments, in order and up to the first that fails, and shows the
same text for every fragment that publishes under a name and that it reaches.
If all fragments publish under names, it gives the same text, executes nothing
and leaves the session as it is. -/
theorem Template.rebuild_reuses_names (host : Host κ) (template : Template)
    (wide : template.scope = .evaluator) (session after : Session κ) (built : Text)
    (done : template.build (Session.evaluator host) session = .ok built after) :
    let again := template.build (Session.evaluator host) after
    let recorded := template.build (Session.evaluator host.recorded) after.recording
    again = seen Session.forget recorded ∧
      (stateLeft again).bindings = after.bindings ∧
      Accounts ((Segment.recurring after.bindings template.segments).map
        (Fragment.handed after.normalizes)) after.recording recorded ∧
      (∀ index fragment name, template.segments[index]? = some (.code fragment) →
        fragment.publishedName = some name →
          ∃ text, session.passed? host template.segments index = some (fragment, text) ∧
            ∀ front reached,
              Session.build host (template.segments.take index) after = .ok front reached →
                after.passed? host template.segments index = some (fragment, text)) ∧
      ((∀ fragment, .code fragment ∈ template.segments → fragment.publishedName ≠ none) →
        again = .ok built after) := by
  intro again recorded
  rcases template with ⟨segments, joiner, scope, delimiters⟩
  obtain rfl : scope = .evaluator := wide
  have firstBuild : Session.build host segments session = .ok built after := done
  have bound := Session.get?_ne_none_of_build_eq_ok firstBuild
  refine ⟨?_, ?_, ?_, ?_, ?_⟩
  · exact (Session.seenAs_forget host).build _ after.recording
  · exact Session.bindings_build_of_bound host bound
  · have accounts := Segment.buildAccounts host .evaluator after.bindings [] segments .empty
      after.recording (Tracks.initial .evaluator after.bindings)
    rwa [Segment.due_eq_recurring bound] at accounts
  · intro index fragment name stands named
    obtain ⟨text, passed, held⟩ := Session.exists_passed?_of_build_eq_ok firstBuild stands
    refine ⟨text, passed, fun front reached ran => ?_⟩
    have keeps := Session.extends_build host (segments.take index) after
    rw [ran] at keeps
    have again := Session.build_code_of_bound host named (keeps name text (held name named))
    exact Session.passed?_of_build stands ran again
  · intro named
    exact Session.build_again firstBuild named (.refl after.bindings)

/-- The host fails the second time.  By then one name is bound, and a fragment
with a blank name is executed again. -/
theorem Template.rebuild_reuses_names_failing :
    let host : Host Nat := fun code _ count =>
      if count < 2 then .ok (code ++ List.replicate count '+') (count + 1)
      else .error (.execution code) (count + 1)
    let template : Template := Template.ofSegments
      [.code ⟨['a'], some ['x']⟩, .code ⟨['b'], some [' ']⟩, .code ⟨['c'], some ['x']⟩]
    let after : Session Nat :=
      { memory := 2
        bindings := Store.empty.insert ['x'] ['a']
        executions := 2 }
    template.build (Session.evaluator host) { memory := 0 } =
        .ok ['a', 'b', '+', 'a'] after ∧
      answer (template.build (Session.evaluator host) after) = .error (.execution ['b']) ∧
      (stateLeft (template.build (Session.evaluator host) after)).bindings = after.bindings := by
  intro host template after
  have done : template.build (Session.evaluator host) { memory := 0 } =
      .ok ['a', 'b', '+', 'a'] after := by rfl
  exact ⟨done, by rfl, (Template.rebuild_reuses_names host template rfl _ _ _ done).2.1⟩

end Inlay
