/-
  MiniC.Proofs.Settings — what the settings are after a reset.

  A reset writes every setting before anything is read, so nothing of the settings before it is
  left (`reset_eq`). After it each setting is told by its own variable, and is at its default
  where the variable tells nothing (`get_reset`). In particular the nesting depth is an integer
  of at least one (`exists_maxNesting_reset`), and it is the only setting about which a reset can
  have something to report (`events_reset`).

  A log level may be any text. Two texts give no threshold, since they name other things of the
  logging system; every other one does (`exists_threshold_iff`).
-/

import MiniC.Settings

namespace MiniC.Settings

variable (env : Environment)

/-! ## A reset -/

/-- The value that a variable of the environment gives to its setting, if it gives one. -/
def fromVariable (name : SettingName) : Option Setting :=
  match env.lookup name.variableName with
  | none => none
  | some raw => if raw = "" then none else (read name raw).toOption

theorem get_set (s : Settings) (name other : SettingName) (v : Setting) :
    (s.set name v).get other = if name = other then v else s.get other := by
  cases name <;> cases other <;> rfl

theorem get_override (s : Settings × List Log.Event) (name other : SettingName) :
    (override env s name).1.get other
      = if name = other then (fromVariable env name).getD (s.1.get other) else s.1.get other := by
  unfold override fromVariable
  cases env.lookup name.variableName with
  | none => simp
  | some raw =>
    by_cases empty : raw = ""
    · simp [empty]
    · cases told : read name raw with
      | ok v => simp [empty, told, get_set, Except.toOption]
      | error why => simp [empty, told, Except.toOption]

/-- Nothing is left of the settings before. -/
theorem restore_eq (s : Settings) : s.restore = .default := by
  cases s
  rfl

/-- A reset does not depend on the settings before it. -/
theorem reset_eq (s s' : Settings) : s.reset env = s'.reset env := by
  unfold reset
  rw [restore_eq, restore_eq]

/-- After a reset each setting is told by its variable. -/
theorem get_reset (s : Settings) (name : SettingName) :
    (s.reset env).1.get name = (fromVariable env name).getD (default.get name) := by
  unfold reset
  rw [restore_eq]
  simp only [SettingName.all, List.foldl_cons, List.foldl_nil, get_override]
  cases name <;> simp

/-- What is reported about the variable of a setting. -/
def ignored (name : SettingName) : List Log.Event :=
  match env.lookup name.variableName with
  | none => []
  | some raw =>
    if raw = "" then []
    else
      match read name raw with
      | .ok _ => []
      | .error why => [.ignored name.variableName raw why]

theorem events_override (s : Settings × List Log.Event) (name : SettingName) :
    (override env s name).2 = s.2 ++ ignored env name := by
  unfold override ignored
  cases env.lookup name.variableName with
  | none => simp
  | some raw =>
    by_cases empty : raw = ""
    · simp [empty]
    · cases told : read name raw <;> simp [empty, told]

/-- Every text gives a value to every setting but the nesting depth. -/
theorem ignored_eq_nil {name : SettingName} (other : name ≠ .maxNesting) :
    ignored env name = [] := by
  unfold ignored
  cases env.lookup name.variableName with
  | none => rfl
  | some raw => cases name <;> simp [read] at other ⊢

/-- A reset reports nothing but what is wrong with the nesting depth. -/
theorem events_reset (s : Settings) : (s.reset env).2 = ignored env .maxNesting := by
  unfold reset
  simp [SettingName.all, events_override, ignored_eq_nil]

/-! ## The nesting depth and the log level -/

/-- After a reset the nesting depth is an integer of at least one. -/
theorem exists_maxNesting_reset (s : Settings) :
    ∃ n : Int, (s.reset env).1.maxNesting = .number n ∧ 1 ≤ n := by
  have told : (s.reset env).1.maxNesting = _ := get_reset env s .maxNesting
  rw [told]
  unfold fromVariable
  cases env.lookup SettingName.maxNesting.variableName with
  | none => exact ⟨150, rfl, by decide⟩
  | some raw =>
    by_cases empty : raw = ""
    · exact ⟨150, by simp [empty, default, get], by decide⟩
    · cases value : Text.integer? raw with
      | none => exact ⟨150, by simp [empty, read, value, Except.toOption, default, get], by decide⟩
      | some n =>
        by_cases below : n < 1
        · exact ⟨150, by simp [empty, read, value, below, Except.toOption, default, get], by decide⟩
        · exact ⟨n, by simp [empty, read, value, below, Except.toOption], by omega⟩

/-- After a reset the log level is another text than the default exactly if its variable spells
that text in capitals. -/
theorem logLevel_reset_eq_iff (s : Settings) {name : String} (other : name ≠ "WARNING")
    (some : name ≠ "") :
    (s.reset env).1.logLevel = .text name ↔
      ∃ raw, env.lookup SettingName.logLevel.variableName = .some raw ∧ Text.upper raw = name := by
  have told : (s.reset env).1.logLevel = _ := get_reset env s .logLevel
  have standard : default.get .logLevel = .text "WARNING" := rfl
  rw [told, standard]
  unfold fromVariable
  cases env.lookup SettingName.logLevel.variableName with
  | none => simpa using fun h => other h.symm
  | some raw =>
    by_cases empty : raw = ""
    · have nothing : Text.upper "" ≠ name := fun h => some h.symm
      subst empty
      simpa [nothing] using fun h => other h.symm
    · simp [empty, read, Except.toOption]

/-! ## The threshold of the log -/

/-- All names but two stand for a threshold. -/
theorem exists_levelFor_iff (name : String) :
    (∃ rank, levelFor name = .ok rank) ↔ name ≠ "BASIC_FORMAT" ∧ name ≠ "_STYLES" := by
  constructor
  · rintro ⟨rank, found⟩
    constructor <;> rintro rfl <;> exact nomatch found
  · rintro ⟨format, styles⟩
    unfold levelFor
    cases levelNames.lookup name with
    | some rank => exact ⟨rank, rfl⟩
    | none =>
      have none : otherLogNames.lookup name = none := by
        rw [List.lookup_eq_none_iff]
        simp [otherLogNames, format, styles]
      rw [none]
      exact ⟨_, rfl⟩

/-- There is a threshold while debug logging is on, and where the log level is none of the two
names. -/
theorem exists_threshold_iff (s : Settings) :
    (∃ rank, s.threshold = .ok rank) ↔
      s.debug ∨ s.logLevel ≠ .text "BASIC_FORMAT" ∧ s.logLevel ≠ .text "_STYLES" := by
  unfold threshold
  by_cases debug : s.debug
  · simp [debug]
  · cases s.logLevel with
    | text name => simpa [debug] using exists_levelFor_iff name
    | flag b => simp [debug]
    | number n => simp [debug]

end MiniC.Settings
