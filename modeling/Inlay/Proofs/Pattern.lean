import Inlay.Text.Bytes
import Mathlib.Data.List.Basic

/-!
# Matching patterns

A pattern is tried at a position of a text, and there may be several ways to
match it.  They are ordered: an option is rather taken than left out, and a
repetition rather goes on than ends.  The match is the first of the ways, at
the leftmost position that has one.  Positions are byte offsets, and a group
records where the text it matched begins and ends.

The matches of a text are found one behind the other.  They do not overlap, and
an empty match that stands where the one before it ended does not count: the
search goes on one character further.
-/

namespace Inlay

/-- Patterns over classes of characters; `ι` names the groups. -/
inductive Pattern (ι : Type) where
  | empty
  | one (accepts : Char → Bool)
  | seq (first second : Pattern ι)
  | optional (inner : Pattern ι)
  | many (accepts : Char → Bool)
  | group (name : ι) (inner : Pattern ι)

/-- The byte offsets where a stretch of text begins and ends. -/
structure Span where
  start : Nat
  stop : Nat
  deriving DecidableEq

namespace Pattern

variable {ι : Type}

/-- What has been matched up to a position, and the text behind it. -/
structure Thread (ι : Type) where
  offset : Nat
  rest : Text
  groups : ι → Option Span

/-- A group has matched from an offset up to here. -/
def Thread.record [DecidableEq ι] (name : ι) (start : Nat) (thread : Thread ι) : Thread ι where
  offset := thread.offset
  rest := thread.rest
  groups := Function.update thread.groups name (some ⟨start, thread.offset⟩)

/-- The positions behind characters of a class, the farthest first. -/
def runs (accepts : Char → Bool) (offset : Nat) : Text → List (Nat × Text)
  | [] => [(offset, [])]
  | c :: rest =>
      if accepts c then
        runs accepts (offset + c.utf8Size) rest ++ [(offset, c :: rest)]
      else
        [(offset, c :: rest)]

variable [DecidableEq ι]

/-- The ways to match a pattern, in the order of preference. -/
def ways : Pattern ι → Thread ι → List (Thread ι)
  | empty, thread => [thread]
  | one accepts, thread =>
      match thread.rest with
      | [] => []
      | c :: rest =>
          if accepts c then [⟨thread.offset + c.utf8Size, rest, thread.groups⟩] else []
  | seq first second, thread => (ways first thread).flatMap (ways second)
  | optional inner, thread => ways inner thread ++ [thread]
  | many accepts, thread =>
      (runs accepts thread.offset thread.rest).map fun reached =>
        ⟨reached.1, reached.2, thread.groups⟩
  | group name inner, thread =>
      (ways inner thread).map (Thread.record name thread.offset)

theorem exists_of_mem_ways_one {accepts : Char → Bool} {thread after : Thread ι}
    (way : after ∈ ways (.one accepts) thread) :
    ∃ c, accepts c = true ∧ thread.rest = c :: after.rest := by
  simp only [ways] at way
  split at way
  · simp at way
  · rename_i c rest front
    split at way
    · rename_i accepted
      obtain rfl := List.mem_singleton.mp way
      exact ⟨c, accepted, front⟩
    · simp at way

/-- The preferred way to match a pattern. -/
def Prefers (pattern : Pattern ι) (thread after : Thread ι) : Prop :=
  (ways pattern thread).head? = some after

/-! ## Preferred ways -/

namespace Prefers

variable {first second inner : Pattern ι} {thread between after : Thread ι}

theorem empty (thread : Thread ι) : Prefers .empty thread thread :=
  rfl

theorem one {accepts : Char → Bool} {c : Char} (accepted : accepts c = true) (offset : Nat)
    (rest : Text) (groups : ι → Option Span) :
    Prefers (.one accepts) ⟨offset, c :: rest, groups⟩
      ⟨offset + c.utf8Size, rest, groups⟩ := by
  simp [Prefers, ways, accepted]

theorem seq (begins : Prefers first thread between) (ends : Prefers second between after) :
    Prefers (.seq first second) thread after := by
  obtain ⟨others, begins⟩ := List.head?_eq_some_iff.mp begins
  obtain ⟨others', ends⟩ := List.head?_eq_some_iff.mp ends
  simp [Prefers, ways, begins, ends]

theorem optional_of (taken : Prefers inner thread after) :
    Prefers (.optional inner) thread after := by
  obtain ⟨others, taken⟩ := List.head?_eq_some_iff.mp taken
  simp [Prefers, ways, taken]

theorem optional_of_ways_eq_nil (none : ways inner thread = []) :
    Prefers (.optional inner) thread thread := by
  simp [Prefers, ways, none]

theorem group {name : ι} (inside : Prefers inner thread after) :
    Prefers (.group name inner) thread (after.record name thread.offset) := by
  obtain ⟨others, inside⟩ := List.head?_eq_some_iff.mp inside
  simp [Prefers, ways, inside]

/-- A repetition goes on as long as it can. -/
theorem many (accepts : Char → Bool) (offset : Nat) (text : Text) (groups : ι → Option Span) :
    Prefers (.many accepts) ⟨offset, text, groups⟩
      ⟨offset + Text.byteLength (text.takeWhile accepts), text.dropWhile accepts, groups⟩ := by
  suffices farthest : (runs accepts offset text).head? =
      some (offset + Text.byteLength (text.takeWhile accepts), text.dropWhile accepts) by
    obtain ⟨others, farthest⟩ := List.head?_eq_some_iff.mp farthest
    simp [Prefers, ways, farthest]
  induction text generalizing offset with
  | nil => rfl
  | cons c rest ih =>
      by_cases accepted : accepts c
      · simp [runs, accepted, ih, Nat.add_assoc]
      · simp [runs, accepted]

end Prefers

/-! ## Words and bounded repetitions -/

/-- The characters of a word, one by one. -/
def word : Text → Pattern ι
  | [] => .empty
  | c :: rest => .seq (.one (· == c)) (word rest)

/-- Characters of a class, as many as there are up to a number. -/
def upTo (accepts : Char → Bool) : Nat → Pattern ι
  | 0 => .empty
  | limit + 1 => .optional (.seq (.one accepts) (upTo accepts limit))

theorem prefers_word (word : Text) (offset : Nat) (rest : Text) (groups : ι → Option Span) :
    Prefers (Pattern.word word) ⟨offset, word ++ rest, groups⟩
      ⟨offset + Text.byteLength word, rest, groups⟩ := by
  induction word generalizing offset with
  | nil => exact .empty _
  | cons c word ih =>
      have others := ih (offset + c.utf8Size)
      rw [Nat.add_assoc, ← Text.byteLength_cons] at others
      exact .seq (.one (beq_self_eq_true c) offset (word ++ rest) groups) others

theorem eq_append_of_mem_ways_word {word : Text} {thread after : Thread ι}
    (way : after ∈ ways (Pattern.word word) thread) : thread.rest = word ++ after.rest := by
  induction word generalizing thread with
  | nil =>
      obtain rfl := List.mem_singleton.mp way
      rfl
  | cons c word ih =>
      rcases List.mem_flatMap.mp way with ⟨between, first, others⟩
      rcases exists_of_mem_ways_one first with ⟨d, accepted, front⟩
      obtain rfl : d = c := by simpa using accepted
      rw [front, ih others, List.cons_append]

/-- As many characters of the class are preferred as there are, up to the
number. -/
theorem prefers_upTo {accepts : Char → Bool} {limit : Nat} {taken rest : Text}
    (short : taken.length ≤ limit) (all : ∀ c ∈ taken, accepts c = true)
    (stops : ∀ c ∈ rest.head?, accepts c = false) (offset : Nat)
    (groups : ι → Option Span) :
    Prefers (upTo accepts limit) ⟨offset, taken ++ rest, groups⟩
      ⟨offset + Text.byteLength taken, rest, groups⟩ := by
  induction taken generalizing limit offset with
  | nil =>
      cases limit with
      | zero => exact .empty _
      | succ limit =>
          apply Prefers.optional_of_ways_eq_nil
          cases rest with
          | nil => rfl
          | cons c rest => simp [ways, stops c rfl]
  | cons c taken ih =>
      cases limit with
      | zero => simp at short
      | succ limit =>
          have others := ih (Nat.le_of_succ_le_succ short)
            (fun d found => all d (List.mem_cons_of_mem c found)) (offset + c.utf8Size)
          rw [Nat.add_assoc, ← Text.byteLength_cons] at others
          have accepted := Prefers.one (all c List.mem_cons_self) offset (taken ++ rest) groups
          exact .optional_of (accepted.seq others)

theorem exists_append_of_mem_ways_upTo {accepts : Char → Bool} {limit : Nat}
    {thread after : Thread ι} (way : after ∈ ways (upTo accepts limit) thread) :
    ∃ taken : Text, taken.length ≤ limit ∧ (∀ c ∈ taken, accepts c = true) ∧
      thread.rest = taken ++ after.rest := by
  induction limit generalizing thread with
  | zero =>
      obtain rfl := List.mem_singleton.mp way
      exact ⟨[], by simp⟩
  | succ limit ih =>
      rcases List.mem_append.mp way with taken | left
      · rcases List.mem_flatMap.mp taken with ⟨between, first, others⟩
        rcases exists_of_mem_ways_one first with ⟨c, accepted, front⟩
        rcases ih others with ⟨taken, short, all, between⟩
        exact ⟨c :: taken, by simpa using short, by simpa [accepted] using all,
          by rw [front, between, List.cons_append]⟩
      · obtain rfl := List.mem_singleton.mp left
        exact ⟨[], by simp⟩

/-! ## Searching -/

/-- A match, and the stretches of its groups. -/
structure Captures (ι : Type) where
  whole : Span
  groups : ι → Option Span

/-- The match at the leftmost position of the text that has one, and the text
behind it. -/
inductive Leftmost (pattern : Pattern ι) : Nat → Text → Captures ι → Text → Prop where
  | here {offset : Nat} {text : Text} {after : Thread ι}
      (matched : Prefers pattern ⟨offset, text, fun _ => none⟩ after) :
      Leftmost pattern offset text ⟨⟨offset, after.offset⟩, after.groups⟩ after.rest
  | later {offset : Nat} {c : Char} {text behind : Text} {captures : Captures ι}
      (none : ways pattern ⟨offset, c :: text, fun _ => none⟩ = [])
      (others : Leftmost pattern (offset + c.utf8Size) text captures behind) :
      Leftmost pattern offset (c :: text) captures behind

/-- The matches from a position on.  `ends` says that a match ends there. -/
inductive Scans (pattern : Pattern ι) : Bool → Nat → Text → List (Captures ι) → Prop where
  | none {ends : Bool} {offset : Nat} {text : Text}
      (none : ∀ captures behind, ¬ Leftmost pattern offset text captures behind) :
      Scans pattern ends offset text []
  | found {ends : Bool} {offset : Nat} {text behind : Text} {captures : Captures ι}
      {later : List (Captures ι)} (found : Leftmost pattern offset text captures behind)
      (counts : ends = true → captures.whole ≠ ⟨offset, offset⟩)
      (others : Scans pattern true captures.whole.stop behind later) :
      Scans pattern ends offset text (captures :: later)
  | passed {offset : Nat} {c : Char} {text behind : Text} {captures : Captures ι}
      {later : List (Captures ι)} (found : Leftmost pattern offset (c :: text) captures behind)
      (empty : captures.whole = ⟨offset, offset⟩)
      (others : Scans pattern false (offset + c.utf8Size) text later) :
      Scans pattern true offset (c :: text) later
  | ended {offset : Nat} {behind : Text} {captures : Captures ι}
      (found : Leftmost pattern offset [] captures behind)
      (empty : captures.whole = ⟨offset, offset⟩) :
      Scans pattern true offset [] []

/-- A pattern that matches here is not searched for any further. -/
theorem Leftmost.eq_of_prefers {pattern : Pattern ι} {offset : Nat} {text behind : Text}
    {captures : Captures ι} {after : Thread ι}
    (found : Leftmost pattern offset text captures behind)
    (matched : Prefers pattern ⟨offset, text, fun _ => none⟩ after) :
    captures = ⟨⟨offset, after.offset⟩, after.groups⟩ ∧ behind = after.rest := by
  cases found with
  | here matched' =>
      obtain rfl := Option.some.inj (matched'.symm.trans matched)
      exact ⟨rfl, rfl⟩
  | later none => simp [Prefers, none] at matched

end Pattern

end Inlay
