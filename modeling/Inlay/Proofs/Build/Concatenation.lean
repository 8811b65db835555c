import Inlay.Evaluator.Recorded
import Inlay.Proofs.Build.Steps

/-!
# Builds of segments in a row

The build of two lists of segments in a row is the build of the first followed
by the build of the second on the evaluator that the first one left.  All that
could come between the two are the values published by the first, which a build
of the second on its own does not have.  In the scope of the evaluator they are
never consulted.  In the scope of the build they are consulted for the names of
the second list alone, so that nothing is missed if the lists have no name in
common.
-/

namespace Inlay

open Sequence

variable {σ ν ε : Type}

/-- Published values matter for the name of the fragment alone, and only in the
scope of the build. -/
theorem Fragment.settle_congr {evaluator : Evaluator σ ν ε} {scope : Scope}
    {published other : Store ν} {fragment : Fragment}
    (agree : scope = .build → ∀ name, fragment.publishedName = some name →
      published.get? name = other.get? name) :
    fragment.settle evaluator scope published = fragment.settle evaluator scope other := by
  cases scope with
  | evaluator => rfl
  | build =>
      cases named : fragment.publishedName with
      | none => simp only [settle, named, Option.bind_none]
      | some name => simp only [settle, named, Option.bind_some, agree rfl name named]

namespace Segment

variable {evaluator : Evaluator σ ν ε} {scope : Scope} {published other : Store ν}

/-- Published values matter for the names of the segments alone, and only in
the scope of the build. -/
theorem buildAfter_congr {segments : List Segment}
    (agree : scope = .build → ∀ name ∈ publishedNames segments,
      published.get? name = other.get? name) :
    buildAfter evaluator scope published segments = buildAfter evaluator scope other segments := by
  induction segments generalizing published other with
  | nil => rfl
  | cons segment later ih =>
      cases segment with
      | literal text =>
          rw [buildAfter_literal, buildAfter_literal, ih agree]
      | code fragment =>
          have settled : fragment.settle evaluator scope published =
              fragment.settle evaluator scope other :=
            Fragment.settle_congr fun own name named =>
              agree own name (mem_publishedNames_cons.mpr (.inl named))
          have noted (value : ν) :
              buildAfter evaluator scope (fragment.note value published) later =
                buildAfter evaluator scope (fragment.note value other) later := by
            apply ih
            intro own name mem
            rw [Fragment.get?_note, Fragment.get?_note,
              agree own name (mem_publishedNames_cons_of_mem mem)]
          simp only [buildAfter_code, settled, noted]

/-- Behind the first segments, the second are built as if nothing had been
published, unless they have a name in common in the scope of the build. -/
theorem buildAfter_append {first second : List Segment}
    (apart : scope = .build → ∀ name ∈ publishedNames first, name ∉ publishedNames second) :
    buildAfter evaluator scope published (first ++ second) = (do
      let front ← buildAfter evaluator scope published first
      (front ++ ·) <$> buildAfter evaluator scope published second) := by
  induction first generalizing published with
  | nil => simp
  | cons segment later ih =>
      cases segment with
      | literal text =>
          rw [List.cons_append, buildAfter_literal, buildAfter_literal, ih apart]
          simp
      | code fragment =>
          have laterApart : scope = .build →
              ∀ name ∈ publishedNames later, name ∉ publishedNames second :=
            fun own name mem => apart own name (mem_publishedNames_cons_of_mem mem)
          -- the second list asks for no name that this fragment publishes under
          have unnoted (value : ν) :
              buildAfter evaluator scope (fragment.note value published) second =
                buildAfter evaluator scope published second := by
            apply buildAfter_congr
            intro own name mem
            rw [Fragment.get?_note, if_neg]
            intro named
            exact apart own name (mem_publishedNames_cons.mpr (.inl named)) mem
          rw [List.cons_append, buildAfter_code, buildAfter_code]
          simp [ih laterApart, unnoted]

/-- Building distributes over putting segments in a row: the same state is
left, and by what it records the same calls were made, the texts are in a row,
and if one of the builds fails, nothing is built behind it.  In the scope of
the build the two lists must not share a name. -/
theorem build_append (evaluator : Evaluator σ ν ε) (scope : Scope) (first second : List Segment)
    (apart : scope = .build → ∀ name ∈ publishedNames first, name ∉ publishedNames second) :
    build evaluator scope (first ++ second) = (do
        let front ← build evaluator scope first
        let back ← build evaluator scope second
        pure (front ++ back)) ∧
      build evaluator.recorded scope (first ++ second) = (do
        let front ← build evaluator.recorded scope first
        let back ← build evaluator.recorded scope second
        pure (front ++ back)) := by
  simp only [build, bind_pure_comp]
  exact ⟨buildAfter_append apart, buildAfter_append apart⟩

/-- A blank name that both lists have is no name in common. -/
theorem build_append_blank :
    let echo : Evaluator Nat Text Fault :=
      { execute := fun code count => .ok code (count + 1)
        lookup := fun _ count => (none, count)
        publish := fun _ _ count => count
        shown := id }
    let first := [code ⟨['a'], some ['x']⟩, code ⟨['b'], some [' ']⟩, code ⟨['c'], some ['x']⟩]
    let second := [literal ['-'], code ⟨['d'], some [' ']⟩, code ⟨['e'], some ['y']⟩]
    (Scope.build = .build → ∀ name ∈ publishedNames first, name ∉ publishedNames second) ∧
      build echo .build (first ++ second) 0 = .ok ['a', 'b', 'a', '-', 'd', 'e'] 4 := by
  intro echo first second
  have apart : ∀ name ∈ publishedNames first, name ∉ publishedNames second := by decide
  refine ⟨fun _ => apart, ?_⟩
  rw [(build_append echo .build first second fun _ => apart).1]
  rfl

end Segment

end Inlay
