import Mathlib.Data.List.Nodup
import Inlay.Proofs.Settings.Checking

/-!
# Layers of settings

Three layers give texts for settings: the environment, a document, and the
standard texts.  They are laid over one another key by key, so that a document
with a few of the keys of a section leaves the others as they are.

The proof follows the tree while the environment is laid over the document.
`Gives` relates a tree to the texts that it has for the keys; putting the value
of a variable at its place changes the text of one key, and all variables of an
environment change the texts of those keys that they set.  What the tree gives
in the end is read off and checked.
-/

namespace Inlay

open Config

namespace Config

/-! ## Trees -/

/-- Altering a tree under a name changes nothing under other names. -/
theorem Tree.child?_alterName (name other : Text) (change : Tree → Tree) (tree : Tree) :
    (tree.alterName name change).child? other =
      if other = name then some (change ((tree.child? name).getD .missing))
      else tree.child? other := by
  exact Entries.find?_alter name other _ tree.entries

theorem Tree.entries_getD_missing (tree : Option Tree) :
    (tree.getD .missing).entries = (tree.getD .empty).entries := by
  cases tree with
  | none => rfl
  | some tree => rfl

/-- A later source is put over the tree that the earlier ones make. -/
theorem assemble_append {earlier later : List Placed} {tree : Tree}
    (assembled : assemble earlier = .ok tree)
    (reachable : ∀ placed ∈ later, placed.place.all Step.reachable) :
    assemble (earlier ++ later) = .ok (tree.putAll later) := by
  unfold assemble at assembled ⊢
  split at assembled
  case isFalse => contradiction
  case isTrue earlierReachable =>
    have allReachable :
        (earlier ++ later).all fun placed => placed.place.all Step.reachable := by
      rw [List.all_append, earlierReachable, List.all_eq_true.mpr reachable]
      rfl
    cases assembled
    rw [if_pos allReachable, Tree.putAll, List.foldl_append]
    rfl

end Config

namespace Settings

/-! ## Where keys stand -/

namespace Key

/-- The place of a key in a tree. -/
def place (key : Key) : Path :=
  [.name key.category, .name key.name]

/-- The name of the environment variable for a key, in lower case. -/
def variableName (key : Key) : Text :=
  Environment.marker ++ key.category ++ "__".toList ++ key.name

/-- What an environment sets a key to.  The last of several variables
counts. -/
def set? (key : Key) : Entries Text → Option Text
  | [] => none
  | (name, value) :: later =>
      (key.set? later).or (if name.lowercase = key.variableName then some value else none)

theorem eq_of_name_eq {first second : Key} (same : first.name = second.name) :
    first = second := by
  have distinct : (all.map name).Nodup := by decide +kernel
  exact List.inj_on_of_nodup_map distinct (mem_all first) (mem_all second) same

theorem eq_of_variableName_eq {first second : Key}
    (same : first.variableName = second.variableName) : first = second := by
  have distinct : (all.map variableName).Nodup := by decide +kernel
  exact List.inj_on_of_nodup_map distinct (mem_all first) (mem_all second) same

/-- The variable for a key leads to the place of the key. -/
theorem path?_eq_place {name : Text} {key : Key} (names : name.lowercase = key.variableName) :
    Environment.path? name = some key.place := by
  have leads : ∀ key ∈ all,
      (Environment.marker.isPrefixOf? key.variableName).map
        (fun rest => Path.ofKey (Environment.withPeriods rest)) = some key.place := by
    decide +kernel
  rw [Environment.path?, names]
  exact leads key (mem_all key)

example : scope.variableName = "tessera__composition__binding_scope".toList := by decide

/-- A variable without the marker is for no place. -/
theorem path?_eq_none {name : Text} (unmarked : ¬Environment.marker <+: name.lowercase) :
    Environment.path? name = none := by
  rw [Environment.path?, Option.map_eq_none_iff, Option.eq_none_iff_forall_ne_some]
  intro rest stripped
  exact unmarked ⟨rest, List.isPrefixOf?_eq_some_iff_append_eq.mp stripped⟩

variable {entry : Text × Text} {later : Entries Text}

theorem settings_cons_of_unmarked (unmarked : ¬Environment.marker <+: entry.1.lowercase) :
    Environment.settings (entry :: later) = Environment.settings later := by
  simp [Environment.settings, path?_eq_none unmarked]

theorem settings_cons {key : Key} (names : entry.1.lowercase = key.variableName) :
    Environment.settings (entry :: later) =
      { place := key.place, tree := .text entry.2 } :: Environment.settings later := by
  simp [Environment.settings, path?_eq_place names]

theorem set?_cons_of_unmarked (unmarked : ¬Environment.marker <+: entry.1.lowercase)
    (key : Key) : key.set? (entry :: later) = key.set? later := by
  have otherName : entry.1.lowercase ≠ key.variableName := by
    intro names
    rw [names] at unmarked
    apply unmarked
    rw [variableName, List.append_assoc, List.append_assoc]
    exact List.prefix_append _ _
  rw [set?, if_neg otherName, Option.or_none]

/-- A variable in front of others gives what they leave open. -/
theorem set?_cons_or {key : Key} (names : entry.1.lowercase = key.variableName)
    (texts : Key → Option Text) (other : Key) :
    (other.set? (entry :: later)).or (texts other) =
      (other.set? later).or (Function.update texts key (some entry.2) other) := by
  rw [set?, names, Option.or_assoc]
  by_cases same : other = key
  · subst same
    rw [if_pos rfl, Function.update_self, Option.some_or]
  · have otherName : key.variableName ≠ other.variableName :=
      fun both => same (eq_of_variableName_eq both.symm)
    rw [if_neg otherName, Function.update_of_ne same, Option.none_or]

end Key

/-- Whether the only settings in an environment are those of known keys. -/
def OnlyKeys (environment : Entries Text) : Prop :=
  ∀ entry ∈ environment, Environment.marker <+: entry.1.lowercase →
    entry.1.lowercase ∈ Key.all.map Key.variableName

instance (environment : Entries Text) : Decidable (OnlyKeys environment) :=
  inferInstanceAs (Decidable (∀ entry ∈ environment, Environment.marker <+: entry.1.lowercase →
    entry.1.lowercase ∈ Key.all.map Key.variableName))

theorem OnlyKeys.cons_cases {entry : Text × Text} {later : Entries Text}
    (known : OnlyKeys (entry :: later)) :
    OnlyKeys later ∧ ((∃ key : Key, entry.1.lowercase = key.variableName) ∨
      ¬Environment.marker <+: entry.1.lowercase) := by
  obtain ⟨here, knownLater⟩ := List.forall_mem_cons.mp known
  refine ⟨knownLater, ?_⟩
  by_cases marked : Environment.marker <+: entry.1.lowercase
  · obtain ⟨key, _, names⟩ := List.mem_map.mp (here marked)
    exact .inl ⟨key, names.symm⟩
  · exact .inr marked

/-- No variable for a key leads out of reach. -/
theorem OnlyKeys.reachable {environment : Entries Text} (known : OnlyKeys environment) :
    ∀ placed ∈ Environment.settings environment, placed.place.all Step.reachable := by
  induction environment with
  | nil => exact List.forall_mem_nil _
  | cons entry later ih =>
      obtain ⟨knownLater, ⟨key, names⟩ | unmarked⟩ := known.cons_cases
      · rw [Key.settings_cons names, List.forall_mem_cons]
        exact ⟨rfl, ih knownLater⟩
      · rw [Key.settings_cons_of_unmarked unmarked]
        exact ih knownLater

/-! ## What a tree gives -/

/-- What stands under a name, if it is a text or nothing. -/
def textOrNothing? : Option Tree → Option (Option Text)
  | none => some none
  | some (.text content) => some (some content)
  | some _ => none

/-- What a tree has for a key, if its section is a table and has a text or
nothing there. -/
def read? (tree : Tree) (key : Key) : Option (Option Text) :=
  match (tree.child? key.category).getD .empty with
  | .table entries => textOrNothing? (Entries.find? key.name entries)
  | _ => none

/-- A tree has exactly the given texts for the keys. -/
def Gives (tree : Tree) (texts : Key → Option Text) : Prop :=
  ∀ key, read? tree key = some (texts key)

instance (tree : Tree) (texts : Key → Option Text) : Decidable (Gives tree texts) :=
  decidable_of_iff (∀ key ∈ Key.all, read? tree key = some (texts key)) (by simp [Gives])

theorem textOrNothing?_eq_some_iff {below : Option Tree} {found : Option Text} :
    textOrNothing? below = some found ↔ below = found.map .text := by
  cases below with
  | none => cases found <;> simp [textOrNothing?]
  | some tree => cases tree <;> cases found <;> simp [textOrNothing?]

theorem read?_eq_some_iff {tree : Tree} {key : Key} {found : Option Text} :
    read? tree key = some found ↔
      ∃ entries, (tree.child? key.category).getD .empty = .table entries ∧
        Entries.find? key.name entries = found.map .text := by
  unfold read?
  cases (tree.child? key.category).getD .empty with
  | table entries => simp [textOrNothing?_eq_some_iff]
  | missing => simp
  | text content => simp
  | list items => simp

variable {tree : Tree} {texts : Key → Option Text}

/-- Putting a text at the place of a key changes one entry of its section. -/
theorem section_put {entries : Entries Tree} (key other : Key) (value : Text)
    (present : (tree.child? key.category).getD .empty = .table entries) :
    (((Tree.text value).put key.place tree).child? other.category).getD .empty =
      if other.category = key.category then
        .table (entries.alter key.name fun _ => .text value)
      else
        (tree.child? other.category).getD .empty := by
  have below : ((tree.child? key.category).getD .missing).entries = entries := by
    rw [Tree.entries_getD_missing, present]
    rfl
  have putTwice : (Tree.text value).put key.place tree =
      tree.alterName key.category (Tree.alterName key.name (Tree.text value).overlay) := rfl
  rw [putTwice, Tree.child?_alterName]
  split
  case isTrue same =>
    rw [Option.getD_some, Tree.alterName, below]
    rfl
  case isFalse => rfl

/-- It changes what the tree has for that key, and for no other. -/
theorem Gives.put (gives : Gives tree texts) (key : Key) (value : Text) :
    Gives ((Tree.text value).put key.place tree) (Function.update texts key (some value)) := by
  intro other
  obtain ⟨entries, present, _⟩ := read?_eq_some_iff.mp (gives key)
  obtain ⟨others, otherPresent, given⟩ := read?_eq_some_iff.mp (gives other)
  apply read?_eq_some_iff.mpr
  rw [section_put key other value present]
  by_cases sameSection : other.category = key.category
  · rw [if_pos sameSection]
    refine ⟨_, rfl, ?_⟩
    rw [Entries.find?_alter]
    by_cases same : other = key
    · subst same
      rw [if_pos rfl, Function.update_self]
      rfl
    -- another key of the section that was changed keeps its entry
    · have otherName : other.name ≠ key.name := fun names => same (Key.eq_of_name_eq names)
      rw [sameSection, present] at otherPresent
      cases otherPresent
      rw [if_neg otherName, Function.update_of_ne same, given]
  · have different : other ≠ key := fun same => sameSection (congrArg Key.category same)
    rw [if_neg sameSection, Function.update_of_ne different]
    exact ⟨others, otherPresent, given⟩

/-- An environment that is laid over a tree changes what the tree has for the
keys that it sets. -/
theorem Gives.putAll {environment : Entries Text} (known : OnlyKeys environment)
    (gives : Gives tree texts) :
    Gives (tree.putAll (Environment.settings environment))
      fun key => (key.set? environment).or (texts key) := by
  induction environment generalizing tree texts with
  | nil => exact gives
  | cons entry later ih =>
      obtain ⟨knownLater, ⟨key, names⟩ | unmarked⟩ := known.cons_cases
      -- the later variables are laid over what the first one has changed
      · rw [Key.settings_cons names]
        simp only [Key.set?_cons_or names]
        exact ih knownLater (gives.put key entry.2)
      · rw [Key.settings_cons_of_unmarked unmarked]
        simp only [Key.set?_cons_of_unmarked unmarked]
        exact ih knownLater gives

theorem text_of_gives (gives : Gives tree texts) (key : Key) :
    text tree key = .ok ((texts key).getD key.standard) := by
  obtain ⟨entries, present, found⟩ := read?_eq_some_iff.mp (gives key)
  rw [text, present, given, found]
  cases texts key with
  | none => rfl
  | some content => rfl

theorem ofTree_of_gives (gives : Gives tree texts) :
    ofTree tree = ofTexts fun key => (texts key).getD key.standard := by
  have readable : (Key.all.forM fun key => discard (text tree key)) = .ok () := by
    apply forM_eq_ok_iff.mpr
    intro key _
    rw [text_of_gives gives key]
    rfl
  rw [ofTree, readable]
  simp only [text_of_gives gives]
  rfl

/-! ## Documents -/

/-- The tree of a document, if there is one. -/
def tree? (document : Text) : Option Tree := do
  let sources ← Toml.settings? document
  (assemble sources).toOption

/-- A document has exactly the given texts for the keys. -/
def Content (document : Text) (texts : Key → Option Text) : Prop :=
  ∃ tree ∈ tree? document, Gives tree texts

instance (document : Text) (texts : Key → Option Text) : Decidable (Content document texts) :=
  inferInstanceAs (Decidable (∃ tree ∈ tree? document, Gives tree texts))

/-- The texts that are in effect: what the environment sets, or else what is
given otherwise, or else the standard. -/
def effective (environment : Entries Text) (texts : Key → Option Text) (key : Key) : Text :=
  ((key.set? environment).or (texts key)).getD key.standard

theorem Content.ofSources {document : Text} {environment : Entries Text}
    (content : Content document texts) (known : OnlyKeys environment) :
    ∃ sources, Toml.settings? document = some sources ∧
      ofSources (sources ++ Environment.settings environment) =
        ofTexts (effective environment texts) := by
  obtain ⟨tree, assembles, gives⟩ := content
  obtain ⟨sources, written, succeeds⟩ := Option.bind_eq_some_iff.mp assembles
  refine ⟨sources, written, ?_⟩
  cases assembled : assemble sources with
  | error fault =>
      rw [assembled] at succeeds
      contradiction
  | ok other =>
      rw [assembled] at succeeds
      cases succeeds
      rw [Settings.ofSources, assemble_append assembled known.reachable]
      exact ofTree_of_gives (gives.putAll known)

/-- Every key has its text from the environment, or else from the document, or
else the standard one, and the settings are checked as a whole. -/
theorem settings_of_layers {document : Text} {texts : Key → Option Text}
    {environment : Entries Text} (content : Content document texts)
    (known : OnlyKeys environment) :
    (∀ file : Option Text, Toml.dropMark (file.getD []) = document →
        Resolves (effective environment texts) (load file environment)) ∧
      Resolves (effective [] texts) (ofToml document) := by
  constructor
  · intro file reads
    obtain ⟨sources, written, outcome⟩ := content.ofSources known
    have loads : load file environment = ofTexts (effective environment texts) := by
      rw [load, reads, written]
      exact outcome
    rw [loads]
    exact resolves_ofTexts _
  · obtain ⟨sources, written, outcome⟩ := content.ofSources (List.forall_mem_nil _)
    have reads : ofToml document = ofTexts (effective [] texts) := by
      rw [ofToml, written, ← outcome]
      exact congrArg Settings.ofSources (List.append_nil sources).symm
    rw [reads]
    exact resolves_ofTexts _

/-- The escape of a document is overridden, and without the environment it is
refused. -/
theorem settings_of_layers_escape :
    load (some "grammar.code_open = '<'\ngrammar.escape = 'ab'".toList)
        [("HOME".toList, "/".toList), ("TESSERA__Grammar__Escape".toList, "^".toList)] =
      .ok { delimiters := { codeOpen := '<', escape := '^' } } ∧
    ∃ fault, ofToml "grammar.code_open = '<'\ngrammar.escape = 'ab'".toList = .error fault ∧
      fault.message = "Config error: grammar.escape must be exactly one character, got 'ab'" := by
  let texts : Key → Option Text
    | .delimiter .codeOpen => some ['<']
    | .delimiter .escape => some ['a', 'b']
    | _ => none
  let environment : Entries Text :=
    [("HOME".toList, "/".toList), ("TESSERA__Grammar__Escape".toList, "^".toList)]
  obtain ⟨loads, reads⟩ := @settings_of_layers
    "grammar.code_open = '<'\ngrammar.escape = 'ab'".toList texts environment
    (by decide +kernel) (by decide +kernel)
  constructor
  · have delimiters : ∀ role ∈ Delimiters.Role.all,
        effective environment texts (.delimiter role) =
          [({ codeOpen := '<', escape := '^' } : Delimiters).get role] := by
      decide +kernel
    apply ((loads (some _) rfl).settings_say _).mpr
    exact ⟨fun role => delimiters role (Delimiters.Role.mem_all role), by decide +kernel,
      by decide +kernel⟩
  · obtain ⟨fails, reported⟩ :=
      reads.first_delimiter [.codeOpen, .codeClose] .escape [.nameOpen, .nameClose] rfl
        (by decide) (by decide)
    exact ⟨_, fails, reported.trans (by decide)⟩

/-- Without a file nothing is set. -/
example : Content (Toml.dropMark (none.getD [])) fun _ => none := by
  decide +kernel

end Settings

end Inlay
