/-
  MiniC.Proofs.Configuration — what the settings can come to be.

  A configuration is made from an environment. After that the environment is edited, the settings
  are taken from it again and they are updated, in any order (`Operation`).

  An update is carried out in place, one `Step` after another: it finds every key, then checks the
  nesting depth, then writes what it is given. It stops at the first step that fails, and what is
  written by then stays written (`carryOut`). All checks come first, so this is the update that is
  made as a whole or not at all (`carryOut_steps`).

  Proved, of the configuration that any operations leave (`configuration_after`):
  - its nesting depth is a number of at least one (`Valid`);
  - an update that breaks off does so for a key that there is not or for the nesting depth, and
    leaves everything as it was; any other update changes the settings that it gives a value for,
    and no more (`Updated`);
  - a reset leaves what a new configuration of the same environment is. A text that writes no
    integer of at least one is passed over as a nesting depth, and reported once (`Renewed`).
-/

import MiniC.Proofs.Settings
import MiniC.Proofs.Text.Integer

namespace MiniC

/-! ## Keys -/

namespace SettingName

theorem ofKey?_key (name : SettingName) : ofKey? name.key = some name := by
  cases name <;> rfl

/-- A key stands for the setting that it is the key of. -/
theorem ofKey?_eq_some_iff {key : String} {name : SettingName} :
    ofKey? key = some name ↔ key = name.key := by
  constructor
  · intro found
    have same := List.find?_some found
    exact (beq_iff_eq.1 same).symm
  · rintro rfl
    exact ofKey?_key name

def IsKey (key : String) : Prop := ∃ name : SettingName, key = name.key

theorem isSome_ofKey?_iff {key : String} : (ofKey? key).isSome ↔ IsKey key := by
  rw [IsKey, Option.isSome_iff_exists]
  exact exists_congr fun _ => ofKey?_eq_some_iff

theorem ofKey?_eq_none_iff {key : String} : ofKey? key = none ↔ ¬ IsKey key := by
  rw [← isSome_ofKey?_iff, Option.not_isSome_iff_eq_none]

end SettingName

namespace Settings

open SettingName (IsKey)

/-! ## What an update asks for -/

/-- The options of an update. No key is given twice. -/
structure Options where
  changes : List Change
  distinct : (changes.map (·.1)).Nodup

/-- In a list with distinct keys a search finds all that is there. -/
theorem lookup_eq_some_iff_mem {changes : List Change} (distinct : (changes.map (·.1)).Nodup)
    {key : String} {v : Option Setting} :
    changes.lookup key = some v ↔ (key, v) ∈ changes := by
  induction changes with
  | nil => simp
  | cons c rest ih =>
    obtain ⟨fresh, distinct⟩ := List.nodup_cons.1 distinct
    rw [List.lookup_cons, List.mem_cons]
    by_cases same : key = c.1
    · subst same
      have absent : (c.1, v) ∉ rest := fun mem => fresh (List.mem_map.2 ⟨_, mem, rfl⟩)
      simp [absent, Prod.ext_iff, eq_comm]
    · have other : (key, v) ≠ c := fun eq => same (congrArg Prod.fst eq)
      simp only [beq_eq_false_iff_ne.2 same, other, false_or, ih distinct]

namespace Options

variable (o : Options)

/-- The options give the setting the value. -/
def Gives (name : SettingName) (v : Setting) : Prop := (name.key, some v) ∈ o.changes

/-- The options ask for nothing that there is not, and for no nesting depth but a number of at
least one. -/
structure Allowed : Prop where
  known : ∀ c ∈ o.changes, IsKey c.1
  deep : ∀ v, o.Gives .maxNesting v → ∃ n, v.number? = some n ∧ 1 ≤ n

/-- Why the options are refused: for the first key that there is not, or else for the nesting
depth. -/
inductive Refused : UpdateFault → Prop
  | unknown {before after : List Change} {key : String} {v : Option Setting}
      (parts : o.changes = before ++ (key, v) :: after) (known : ∀ c ∈ before, IsKey c.1)
      (strange : ¬ IsKey key) : Refused (.unknown key)
  | depthNotNumber {v : Setting} (known : ∀ c ∈ o.changes, IsKey c.1)
      (given : o.Gives .maxNesting v) (text : v.number? = none) : Refused .depthNotNumber
  | depthBelowOne {v : Setting} {n : Int} (known : ∀ c ∈ o.changes, IsKey c.1)
      (given : o.Gives .maxNesting v) (number : v.number? = some n) (below : n < 1) :
      Refused .depthBelowOne

end Options

variable {o : Options}

theorem find?_strange_eq_none_iff {changes : List Change} :
    changes.find? (fun c => (SettingName.ofKey? c.1).isNone) = none ↔
      ∀ c ∈ changes, IsKey c.1 := by
  simp [List.find?_eq_none, SettingName.ofKey?_eq_none_iff]

theorem lookup_maxNesting_eq_some_iff {v : Setting} :
    o.changes.lookup SettingName.maxNesting.key = some (some v) ↔ o.Gives .maxNesting v :=
  lookup_eq_some_iff_mem o.distinct

/-- What is refused is refused for the fault that is told. -/
theorem refused_of_refusal {f : UpdateFault} (refused : refusal o.changes = some f) :
    o.Refused f := by
  unfold refusal at refused
  split at refused
  case h_1 c found =>
    obtain ⟨strange, before, after, parts, known⟩ := List.find?_eq_some_iff_append.1 found
    obtain rfl := Option.some.inj refused
    refine .unknown parts ?_ ?_
    · simpa [SettingName.isSome_ofKey?_iff] using known
    · simpa [SettingName.ofKey?_eq_none_iff] using strange
  case h_2 found =>
    have known := find?_strange_eq_none_iff.1 found
    split at refused
    case h_1 v given =>
      have given := lookup_maxNesting_eq_some_iff.1 given
      cases number : v.number? with
      | none =>
        simp only [number, Option.some.injEq] at refused
        subst refused
        exact .depthNotNumber known given number
      | some n =>
        simp only [number, Option.ite_none_right_eq_some, Option.some.injEq] at refused
        obtain ⟨below, rfl⟩ := refused
        exact .depthBelowOne known given number below
    case h_2 => exact nomatch refused

/-- What is not refused is allowed. -/
theorem allowed_of_refusal (made : refusal o.changes = none) : o.Allowed := by
  unfold refusal at made
  split at made
  case h_1 => exact nomatch made
  case h_2 found =>
    refine ⟨find?_strange_eq_none_iff.1 found, fun v given => ?_⟩
    simp only [lookup_maxNesting_eq_some_iff.2 given] at made
    cases number : v.number? with
    | none => simp [number] at made
    | some n =>
      simp only [number, ite_eq_right_iff, reduceCtorEq, imp_false, Int.not_lt] at made
      exact ⟨n, rfl, made⟩

/-! ## What an update changes -/

theorem get_apply (s : Settings) (c : Change) (name : SettingName) :
    (s.apply c).get name = if c.1 = name.key then c.2.getD (s.get name) else s.get name := by
  unfold apply
  cases found : SettingName.ofKey? c.1 with
  | none =>
    have strange : c.1 ≠ name.key := fun same =>
      SettingName.ofKey?_eq_none_iff.1 found ⟨name, same⟩
    simp [strange]
  | some other =>
    have same := SettingName.ofKey?_eq_some_iff.1 found
    have key_eq_iff : other.key = name.key ↔ other = name := by
      rw [← SettingName.ofKey?_eq_some_iff, SettingName.ofKey?_key, Option.some.injEq]
    cases c.2 with
    | none => simp
    | some v => simp [get_set, same, key_eq_iff]

/-- A setting that is given no value is kept. -/
theorem get_foldl_apply_of_not_gives {changes : List Change} {name : SettingName} (s : Settings)
    (silent : ∀ v, (name.key, some v) ∉ changes) :
    (changes.foldl apply s).get name = s.get name := by
  induction changes generalizing s with
  | nil => rfl
  | cons c rest ih =>
    rw [List.foldl_cons, ih _ fun v mem => silent v (List.mem_cons_of_mem _ mem), get_apply]
    split
    case isTrue same =>
      have none : c.2 = none := by
        rw [Option.eq_none_iff_forall_ne_some]
        rintro v told
        exact silent v (List.mem_cons.2 (.inl (Prod.ext same.symm told.symm)))
      rw [none, Option.getD_none]
    case isFalse => rfl

/-- A setting that is given a value has it. -/
theorem get_foldl_apply_of_gives {changes : List Change} {name : SettingName} {v : Setting}
    (s : Settings) (distinct : (changes.map (·.1)).Nodup) (given : (name.key, some v) ∈ changes) :
    (changes.foldl apply s).get name = v := by
  induction changes generalizing s with
  | nil => exact nomatch given
  | cons c rest ih =>
    obtain ⟨fresh, distinct⟩ := List.nodup_cons.1 distinct
    rw [List.foldl_cons]
    rcases List.mem_cons.1 given with rfl | later
    · have silent : ∀ w, (name.key, some w) ∉ rest := fun w mem =>
        fresh (List.mem_map.2 ⟨_, mem, rfl⟩)
      rw [get_foldl_apply_of_not_gives _ silent, get_apply]
      simp
    · exact ih _ distinct later

/-! ## Updates in place -/

/-- What an update does in turn. -/
inductive Step where
  | findKey (key : String)
  | checkDepth (depth : Option Setting)
  | write (c : Change)

def take (s : Settings) : Step → Except UpdateFault Settings
  | .findKey key => if (SettingName.ofKey? key).isNone then .error (.unknown key) else .ok s
  | .checkDepth none => .ok s
  | .checkDepth (some v) =>
    match v.number? with
    | none => .error .depthNotNumber
    | some n => if n < 1 then .error .depthBelowOne else .ok s
  | .write c => .ok (s.apply c)

/-- The settings that the steps leave, and the fault at which they stop if there is one. -/
def carryOut (s : Settings) : List Step → Settings × Option UpdateFault
  | [] => (s, none)
  | step :: rest =>
    match s.take step with
    | .ok s' => s'.carryOut rest
    | .error f => (s, some f)

/-- The steps of an update. -/
def steps (changes : List Change) : List Step :=
  changes.map (.findKey ·.1) ++
    .checkDepth (changes.lookup SettingName.maxNesting.key).join :: changes.map .write

theorem carryOut_findKeys (s : Settings) (changes : List Change) (rest : List Step) :
    s.carryOut (changes.map (.findKey ·.1) ++ rest) =
      match changes.find? fun c => (SettingName.ofKey? c.1).isNone with
      | some c => (s, some (.unknown c.1))
      | none => s.carryOut rest := by
  induction changes with
  | nil => rfl
  | cons c changes ih =>
    rw [List.map_cons, List.cons_append, carryOut, List.find?_cons, take]
    cases (SettingName.ofKey? c.1).isNone with
    | true => rfl
    | false => exact ih

theorem carryOut_writes (s : Settings) (changes : List Change) :
    s.carryOut (changes.map .write) = (changes.foldl apply s, none) := by
  induction changes generalizing s with
  | nil => rfl
  | cons c changes ih => exact ih (s.apply c)

/-- Carried out in place, an update is made as a whole or not at all. -/
theorem carryOut_steps (s : Settings) (changes : List Change) :
    s.carryOut (steps changes) =
      match s.update changes with
      | .ok s' => (s', none)
      | .error f => (s, some f) := by
  unfold steps update refusal
  rw [carryOut_findKeys]
  cases changes.find? fun c => (SettingName.ofKey? c.1).isNone with
  | some c => rfl
  | none =>
    dsimp only
    rcases changes.lookup SettingName.maxNesting.key with _ | _ | v
    · exact carryOut_writes s changes
    · exact carryOut_writes s changes
    · rw [Option.join_some, carryOut, take]
      dsimp only
      cases v.number? with
      | none => rfl
      | some n =>
        by_cases below : n < 1
        · simp [below]
        · simp [below, carryOut_writes]

/-! ## Resets -/

variable {env : Environment} {raw : String}

/-- The variable of the nesting depth holds a text that writes no integer of at least one. -/
def PassesOver (env : Environment) (raw : String) : Prop :=
  env.lookup SettingName.maxNesting.variableName = some raw ∧ raw ≠ "" ∧
    ∀ n, Text.Writes raw n → n < 1

/-- Why a text for the nesting depth is passed over. -/
def PassedOverFor (raw : String) (why : Log.Refusal) : Prop :=
  why = .notInteger ↔ ∀ n, ¬ Text.Writes raw n

theorem read_maxNesting {n : Int} (written : Text.Writes raw n) (positive : 1 ≤ n) :
    read .maxNesting raw = .ok (.number n) := by
  have notBelow : ¬ n < 1 := Int.not_lt.2 positive
  simp only [read, Text.integer?_eq_some_iff.2 written, if_neg notBelow]

theorem exists_read_maxNesting_eq_error (small : ∀ n, Text.Writes raw n → n < 1) :
    ∃ why, read .maxNesting raw = .error why ∧ PassedOverFor raw why := by
  unfold read PassedOverFor
  simp only [← Text.integer?_eq_some_iff] at small ⊢
  cases told : Text.integer? raw with
  | none => exact ⟨.notInteger, rfl, by simp⟩
  | some n =>
    have below : n < 1 := small n told
    exact ⟨.belowOne, by simp [below], by simp⟩

/-- A text that is passed over gives no value and is reported. -/
theorem PassesOver.ignored (passed : PassesOver env raw) :
    fromVariable env .maxNesting = none ∧
      ∃ why, PassedOverFor raw why ∧
        ignored env .maxNesting = [.ignored SettingName.maxNesting.variableName raw why] := by
  obtain ⟨found, some, small⟩ := passed
  obtain ⟨why, told, reason⟩ := exists_read_maxNesting_eq_error small
  unfold fromVariable Settings.ignored
  simp only [found, if_neg some, told]
  exact ⟨rfl, why, reason, rfl⟩

/-- If no text is passed over, there is nothing to report. -/
theorem ignored_maxNesting_eq_nil (sound : ∀ raw, ¬ PassesOver env raw) :
    ignored env .maxNesting = [] := by
  unfold ignored
  cases found : env.lookup SettingName.maxNesting.variableName with
  | none => rfl
  | some raw =>
    by_cases empty : raw = ""
    · simp [empty]
    · have taken : ∃ n, Text.Writes raw n ∧ 1 ≤ n := by
        by_contra none
        exact sound raw ⟨found, empty, fun n written =>
          Int.not_le.1 fun positive => none ⟨n, written, positive⟩⟩
      obtain ⟨n, written, positive⟩ := taken
      simp only [read_maxNesting written positive, ite_self]

end Settings

/-! ## Operations -/

namespace Configuration

open Settings (Options PassesOver PassedOverFor fromVariable steps)

inductive Operation where
  | assign (name value : String)
  | unassign (name : String)
  | reset
  | update (o : Options)

/-- What an operation leaves, what it reports, and the fault at which it breaks off if there is
one. -/
structure Outcome where
  configuration : Configuration
  events : List Log.Event
  fault : Option UpdateFault

def perform (c : Configuration) : Operation → Outcome
  | .assign name value => ⟨{ c with environment := c.environment.assign name value }, [], none⟩
  | .unassign name => ⟨{ c with environment := c.environment.unassign name }, [], none⟩
  | .reset => ⟨c.reset.1, c.reset.2, none⟩
  | .update o =>
    let (settings, fault) := c.settings.carryOut (steps o.changes)
    ⟨{ c with settings := settings }, [], fault⟩

def performAll (c : Configuration) (ops : List Operation) : Configuration :=
  ops.foldl (fun c op => (c.perform op).configuration) c

variable (c : Configuration)

/-- The nesting depth is a number of at least one. -/
def Valid : Prop := ∃ n, c.settings.maxNesting.number? = some n ∧ 1 ≤ n

/-- What an update comes to that is carried out in place, and what it tells when it is made as a
whole. -/
inductive Updated (o : Options) : Outcome → Prop
  | refused {f : UpdateFault} (why : o.Refused f) (told : c.update o.changes = .error f) :
      Updated o ⟨c, [], some f⟩
  | made {s : Settings} (allowed : o.Allowed) (told : c.update o.changes = .ok ⟨c.environment, s⟩)
      (given : ∀ name v, o.Gives name v → s.get name = v)
      (kept : ∀ name, (∀ v, ¬ o.Gives name v) → s.get name = c.settings.get name) :
      Updated o ⟨⟨c.environment, s⟩, [], none⟩

/-- What a reset comes to. -/
structure Renewed (result : Outcome) : Prop where
  fresh : (result.configuration, result.events) = ofEnvironment c.environment
  told : ∀ name, result.configuration.settings.get name =
    (fromVariable c.environment name).getD (Settings.default.get name)
  passedOver : ∀ raw, PassesOver c.environment raw →
    result.configuration.settings.maxNesting = .number 150 ∧
      ∃ why, PassedOverFor raw why ∧
        result.events = [.ignored SettingName.maxNesting.variableName raw why]
  silent : (∀ raw, ¬ PassesOver c.environment raw) → result.events = []

/-- Carried out in place, an update does what it does as a whole. -/
theorem perform_update (o : Options) :
    c.perform (.update o) =
      match c.update o.changes with
      | .ok c' => ⟨c', [], none⟩
      | .error f => ⟨c, [], some f⟩ := by
  rw [perform, Settings.carryOut_steps, update]
  cases c.settings.update o.changes <;> rfl

theorem updated (o : Options) : c.Updated o (c.perform (.update o)) := by
  rw [perform_update]
  cases refusal : Settings.refusal o.changes with
  | some f =>
    have told : c.update o.changes = .error f := by
      rw [update, Settings.update, refusal]
      rfl
    rw [told]
    exact .refused (Settings.refused_of_refusal refusal) told
  | none =>
    have told : c.update o.changes
        = .ok ⟨c.environment, o.changes.foldl Settings.apply c.settings⟩ := by
      rw [update, Settings.update, refusal]
      rfl
    rw [told]
    refine .made (Settings.allowed_of_refusal refusal) told ?_ ?_
    · exact fun name v given => Settings.get_foldl_apply_of_gives _ o.distinct given
    · exact fun name silent => Settings.get_foldl_apply_of_not_gives _ silent

theorem renewed : c.Renewed (c.perform .reset) := by
  have told (name : SettingName) := Settings.get_reset c.environment c.settings name
  have events := Settings.events_reset c.environment c.settings
  refine ⟨?_, told, ?_, ?_⟩
  · have same := Settings.reset_eq c.environment c.settings .default
    simp only [perform, ofEnvironment, reset, same]
  · intro raw passed
    obtain ⟨nothing, why, reason, reported⟩ := passed.ignored
    refine ⟨?_, why, reason, events.trans reported⟩
    have depth := told .maxNesting
    rw [nothing, Option.getD_none] at depth
    exact depth
  · intro sound
    exact events.trans (Settings.ignored_maxNesting_eq_nil sound)

/-! ## The nesting depth under all of them -/

theorem Renewed.valid {c : Configuration} {result : Outcome} (renewed : c.Renewed result) :
    result.configuration.Valid := by
  obtain ⟨n, told, positive⟩ := Settings.exists_maxNesting_reset c.environment .default
  have same : result.configuration = (ofEnvironment c.environment).1 :=
    congrArg Prod.fst renewed.fresh
  refine ⟨n, ?_, positive⟩
  rw [same]
  exact congrArg Setting.number? told

theorem Updated.valid {c : Configuration} {o : Options} {result : Outcome}
    (updated : c.Updated o result) (valid : c.Valid) : result.configuration.Valid := by
  cases updated with
  | refused => exact valid
  | made allowed told given kept =>
    by_cases gives : ∃ v, o.Gives .maxNesting v
    · obtain ⟨v, gives⟩ := gives
      obtain ⟨n, number, positive⟩ := allowed.deep v gives
      have depth := given .maxNesting v gives
      exact ⟨n, (congrArg Setting.number? depth).trans number, positive⟩
    · obtain ⟨n, number, positive⟩ := valid
      have depth := kept .maxNesting (not_exists.1 gives)
      exact ⟨n, (congrArg Setting.number? depth).trans number, positive⟩

variable {c}

theorem Valid.perform (valid : c.Valid) (op : Operation) : (c.perform op).configuration.Valid := by
  cases op with
  | assign => exact valid
  | unassign => exact valid
  | reset => exact c.renewed.valid
  | update o => exact (c.updated o).valid valid

theorem Valid.performAll (valid : c.Valid) (ops : List Operation) : (c.performAll ops).Valid := by
  induction ops generalizing c with
  | nil => exact valid
  | cons op ops ih => exact ih (valid.perform op)

/-- Whatever has been done with a configuration, its nesting depth is a number of at least one, an
update is made as a whole or not at all, and a reset makes it anew. -/
theorem configuration_after (env : Environment) (ops : List Operation) :
    let c := (ofEnvironment env).1.performAll ops
    c.Valid ∧ (∀ o, c.Updated o (c.perform (.update o))) ∧ c.Renewed (c.perform .reset) := by
  have start : (ofEnvironment env).1.Valid := (renewed ⟨env, .default⟩).valid
  intro c
  exact ⟨start.performAll ops, c.updated, c.renewed⟩

end Configuration

end MiniC
