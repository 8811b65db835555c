import Inlay.Settings

/-!
# Checking settings

The texts of all settings are checked one after the other: the delimiters in
the order of their roles, and the scope behind them.  Reading a delimiter off
its text can be put off until all of them are checked.  What is left is a check
of each role in turn, and the first one that fails decides the fault.

`Resolves` says how texts and an outcome belong together.  The conditions of its
parts exclude each other and leave nothing out, so that the texts determine the
outcome.
-/

namespace Inlay.Settings

variable {α ε : Type}

/-! ## Checks in turn -/

theorem forM_eq_ok_iff {check : α → Except ε Unit} {items : List α} :
    items.forM check = .ok () ↔ ∀ item ∈ items, check item = .ok () := by
  induction items with
  | nil => simp [pure, Except.pure]
  | cons item later ih =>
      rw [List.forM_eq_forM, List.forM_cons, List.forall_mem_cons, ← ih]
      cases check item with
      | error fault => simp [bind, Except.bind]
      | ok passed => simp [bind, Except.bind]

/-- Checks in turn stop at the first one that fails. -/
theorem forM_eq_error_of_first {check : α → Except ε Unit} {earlier later : List α} {item : α}
    {fault : ε} (passed : ∀ before ∈ earlier, check before = .ok ())
    (fails : check item = .error fault) :
    (earlier ++ item :: later).forM check = .error fault := by
  have inFront := forM_eq_ok_iff.mpr passed
  rw [List.forM_eq_forM] at inFront ⊢
  rw [List.forM_append, inFront, List.forM_cons, fails]
  rfl

/-! ## One delimiter -/

/-- A delimiter can be checked first and read afterwards. -/
theorem single_eq (role : Delimiters.Role) (value : Text) :
    single role value = (do discard (single role value); pure (value.headD default)) := by
  match value with
  | [] => rfl
  | [_] => rfl
  | _ :: _ :: _ => rfl

theorem discard_single_eq_ok {role : Delimiters.Role} {value : Text} (one : value.length = 1) :
    discard (single role value) = .ok () := by
  obtain ⟨c, rfl⟩ := List.length_eq_one_iff.mp one
  rfl

theorem discard_single_eq_error {role : Delimiters.Role} {value : Text}
    (other : value.length ≠ 1) :
    discard (single role value) = .error (.notOneCharacter role value) := by
  match value with
  | [] => rfl
  | [_] => contradiction
  | _ :: _ :: _ => rfl

/-! ## All settings -/

/-- The delimiters that stand at the front of the texts. -/
def frontDelimiters (texts : Key → Text) : Delimiters where
  codeOpen := (texts (.delimiter .codeOpen)).headD default
  codeClose := (texts (.delimiter .codeClose)).headD default
  escape := (texts (.delimiter .escape)).headD default
  nameOpen := (texts (.delimiter .nameOpen)).headD default
  nameClose := (texts (.delimiter .nameClose)).headD default

@[simp]
theorem get_frontDelimiters (texts : Key → Text) (role : Delimiters.Role) :
    (frontDelimiters texts).get role = (texts (.delimiter role)).headD default := by
  cases role <;> rfl

/-- The check of the delimiter with a role. -/
def checkDelimiter (texts : Key → Text) (role : Delimiters.Role) : Except Fault Unit :=
  discard (single role (texts (.delimiter role)))

/-- Settings are put together once all delimiters are checked. -/
theorem ofTexts_eq (texts : Key → Text) :
    ofTexts texts = (do
      Delimiters.Role.all.forM (checkDelimiter texts)
      let scope ← Scope.parse (texts .scope)
      pure { delimiters := frontDelimiters texts, joiner := texts .joiner, scope }) := by
  dsimp only [ofTexts]
  rw [single_eq .codeOpen, single_eq .codeClose, single_eq .escape, single_eq .nameOpen,
    single_eq .nameClose]
  simp only [bind_assoc, pure_bind, Delimiters.Role.all, List.forM_eq_forM, List.forM_cons,
    List.forM_nil, checkDelimiter, frontDelimiters]

/-- How the outcome of reading settings belongs to the texts of the settings. -/
structure Resolves (texts : Key → Text) (outcome : Except Fault Settings) : Prop where
  /-- There are settings exactly if every delimiter is one character and the
  scope has a name. -/
  succeeds_iff :
    (∃ settings, outcome = .ok settings) ↔
      (∀ role, (texts (.delimiter role)).length = 1) ∧
        ∃ scope, Scope.parse (texts .scope) = .ok scope
  /-- They are what the texts say. -/
  settings_say : ∀ settings, outcome = .ok settings ↔
    (∀ role, texts (.delimiter role) = [settings.delimiters.get role]) ∧
      settings.joiner = texts .joiner ∧
      Scope.parse (texts .scope) = .ok settings.scope
  /-- The first delimiter that is not one character is named. -/
  first_delimiter : ∀ earlier role later, Delimiters.Role.all = earlier ++ role :: later →
    (∀ before ∈ earlier, (texts (.delimiter before)).length = 1) →
    (texts (.delimiter role)).length ≠ 1 →
    outcome = .error (.notOneCharacter role (texts (.delimiter role))) ∧
      (Fault.notOneCharacter role (texts (.delimiter role))).message =
        "Config error: grammar." ++ role.key ++ " must be exactly one character, got '" ++
          String.ofList (texts (.delimiter role)) ++ "'"
  /-- The fault of the scope is left for when all delimiters are good. -/
  scope_last : (∀ role, (texts (.delimiter role)).length = 1) →
    ∀ fault, Scope.parse (texts .scope) = .error fault → outcome = .error fault

variable {texts : Key → Text}

theorem ofTexts_of_delimiters (one : ∀ role, (texts (.delimiter role)).length = 1) :
    ofTexts texts = (Scope.parse (texts .scope)).map fun scope =>
      { delimiters := frontDelimiters texts, joiner := texts .joiner, scope } := by
  have passed : Delimiters.Role.all.forM (checkDelimiter texts) = .ok () := by
    apply forM_eq_ok_iff.mpr
    intro role _
    exact discard_single_eq_ok (one role)
  rw [ofTexts_eq, passed]
  cases Scope.parse (texts .scope) with
  | error fault => rfl
  | ok scope => rfl

theorem ofTexts_of_first {earlier later : List Delimiters.Role} {role : Delimiters.Role}
    (order : Delimiters.Role.all = earlier ++ role :: later)
    (one : ∀ before ∈ earlier, (texts (.delimiter before)).length = 1)
    (other : (texts (.delimiter role)).length ≠ 1) :
    ofTexts texts = .error (.notOneCharacter role (texts (.delimiter role))) := by
  have stopped : (earlier ++ role :: later).forM (checkDelimiter texts) =
      .error (.notOneCharacter role (texts (.delimiter role))) := by
    apply forM_eq_error_of_first
    · intro before member
      exact discard_single_eq_ok (one before member)
    · exact discard_single_eq_error other
  rw [ofTexts_eq, order, stopped]
  rfl

/-- Either every delimiter is one character, or there is a first one that is
not. -/
theorem one_or_first (texts : Key → Text) :
    (∀ role, (texts (.delimiter role)).length = 1) ∨
      ∃ earlier role later, Delimiters.Role.all = earlier ++ role :: later ∧
        (∀ before ∈ earlier, (texts (.delimiter before)).length = 1) ∧
        (texts (.delimiter role)).length ≠ 1 := by
  cases found : Delimiters.Role.all.find? fun role => (texts (.delimiter role)).length ≠ 1 with
  | none =>
      left
      intro role
      simpa using List.find?_eq_none.mp found role (Delimiters.Role.mem_all role)
  | some role =>
      right
      obtain ⟨other, earlier, later, order, one⟩ := List.find?_eq_some_iff_append.mp found
      exact ⟨earlier, role, later, order, by simpa using one, by simpa using other⟩

theorem one_of_ofTexts_eq_ok {settings : Settings} (gives : ofTexts texts = .ok settings)
    (role : Delimiters.Role) : (texts (.delimiter role)).length = 1 := by
  obtain one | ⟨_, _, _, order, one, other⟩ := one_or_first texts
  · exact one role
  · rw [ofTexts_of_first order one other] at gives
    contradiction

theorem ofTexts_eq_ok_iff {settings : Settings} :
    ofTexts texts = .ok settings ↔
      (∀ role, texts (.delimiter role) = [settings.delimiters.get role]) ∧
        settings.joiner = texts .joiner ∧
        Scope.parse (texts .scope) = .ok settings.scope := by
  constructor
  · intro gives
    have one := one_of_ofTexts_eq_ok gives
    rw [ofTexts_of_delimiters one] at gives
    cases parsed : Scope.parse (texts .scope) with
    | error fault =>
        rw [parsed] at gives
        contradiction
    | ok scope =>
        rw [parsed] at gives
        cases gives
        refine ⟨fun role => ?_, rfl, rfl⟩
        obtain ⟨c, value⟩ := List.length_eq_one_iff.mp (one role)
        rw [get_frontDelimiters, value]
        rfl
  · rintro ⟨delimiters, joiner, parsed⟩
    have one : ∀ role, (texts (.delimiter role)).length = 1 := by
      intro role
      rw [delimiters role]
      rfl
    have front : frontDelimiters texts = settings.delimiters := by
      apply Delimiters.ext_get
      intro role
      rw [get_frontDelimiters, delimiters role]
      rfl
    rw [ofTexts_of_delimiters one, parsed, front, ← joiner]
    rfl

/-- The settings with given texts are checked as they should be. -/
theorem resolves_ofTexts (texts : Key → Text) : Resolves texts (ofTexts texts) where
  succeeds_iff := by
    constructor
    · rintro ⟨settings, gives⟩
      obtain ⟨_, _, parsed⟩ := ofTexts_eq_ok_iff.mp gives
      exact ⟨one_of_ofTexts_eq_ok gives, settings.scope, parsed⟩
    · rintro ⟨one, scope, parsed⟩
      rw [ofTexts_of_delimiters one, parsed]
      exact ⟨_, rfl⟩
  settings_say := by
    intro settings
    exact ofTexts_eq_ok_iff
  first_delimiter := by
    intro earlier role later order one other
    exact ⟨ofTexts_of_first order one other, rfl⟩
  scope_last := by
    intro one fault unnamed
    rw [ofTexts_of_delimiters one, unnamed]
    rfl

end Inlay.Settings
