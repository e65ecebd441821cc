/-
  MiniC.Proofs.CommandLine.Ending — how a run on a file ends.

  The command line names a command and a file, with any options before the command. The exit
  code that it asks for depends on the bytes of the file and on the nesting limit in force
  (`Task.code`). The run ends with this code, unless it breaks off, and there are two things that
  break it off.
  - Without debug logging, a log level that names another thing than a level
    (`a_log_level_breaks_the_run`). A text that names nothing is no trouble, and neither is a
    nesting depth that is no integer.
  - A text of the file, or its path, that the console refuses. The tables, the title of the summary
    and what is said about a file that cannot be read are taken as marked up, and a bracket in a
    string of the file may close a tag that nothing opens (`a_string_breaks_the_run`). What `check`
    and `analyze --json` print of a file is never refused (`Task.texts_eq_nil`).

  Proved:
  - `ending_eq_exit_iff`: a run on a file ends with the exit code that its command asks for exactly
    if it meets neither of the two, and else it breaks off.
-/

import MiniC.Proofs.Analysis
import MiniC.Proofs.CommandLine.Options
import MiniC.Proofs.Source

namespace MiniC.CommandLine

/-! ## Printing a report -/

/-- The prints are drawn to their end exactly if none of their texts is refused. -/
theorem draw_eq_none_iff (console : Report.Console) (colour : Bool) (prints : List Report.Print) :
    (Report.draw console colour prints).2 = none ↔
      ∀ text ∈ prints.flatMap Report.Print.texts, console.refusal? text = none := by
  induction prints with
  | nil => simp [Report.draw]
  | cons p ps ih =>
    rw [List.flatMap_cons, List.forall_mem_append, Report.draw]
    cases found : p.texts.findSome? console.refusal? with
    | none => simpa [ih] using fun _ => List.findSome?_eq_none_iff.1 found
    | some why =>
      obtain ⟨text, mem, refused⟩ := List.exists_of_findSome?_eq_some found
      exact iff_of_false nofun fun accepted => by simp [accepted.1 text mem] at refused

theorem ending_report (console : Report.Console) (colour : Bool) (code : Nat)
    (prints : List Report.Print) :
    (Outcome.report console colour code prints).ending
      = match (Report.draw console colour prints).2 with
        | none => .exit code
        | some why => .broken (.refused why) := by
  unfold Outcome.report
  split
  · next found => rw [found]; rfl
  · next found => rw [found]

/-! ## What is asked for -/

/-- What a command line asks to be done with a file. -/
inductive Task where
  | tokens
  | check
  | symbols
  | analyze (json : Bool)
  deriving DecidableEq, Repr

/-- The nesting limit in force. -/
def limitInForce (s : Settings) : Nat := min s.limit.toNat deepestNesting

namespace Task

def command : Task → Command
  | tokens => .tokens
  | check => .check
  | symbols => .symbols
  | analyze _ => .analyze

def json : Task → Bool
  | analyze json => json
  | _ => false

/-- What is written after the command. -/
def arguments (t : Task) (path : String) : List String :=
  if t.json then ["--json", path] else [path]

/-- The task as it is written, with its file. -/
def words (t : Task) (path : String) : List String := t.command.name :: t.arguments path

/-- The exit code for what the bytes of the file hold. -/
def code (limit : Nat) : Task → Except Text.Utf8.Fault String → Nat
  | _, .error _ => 2
  | tokens, .ok source => if (tokenize source).errors.isEmpty then 0 else 1
  | check, .ok source => if (MiniC.analyze source limit).ok then 0 else 1
  | symbols, .ok _ => 0
  | analyze _, .ok source => if (MiniC.analyze source limit).ok then 0 else 1

/-- What is printed for it. -/
def prints (limit : Nat) (path : String) : Task → Except Text.Utf8.Fault String → List Report.Print
  | _, .error f => Report.unreadable (SourceError.message ⟨Path.shorten path, .notUtf8 f⟩)
  | tokens, .ok source => Report.tokens source (tokenize source)
  | check, .ok source => Report.check source (MiniC.analyze source limit)
  | symbols, .ok source => Report.symbols (MiniC.analyze source limit)
  | analyze true, .ok source => Report.json (MiniC.analyze source limit)
  | analyze false, .ok source => Report.full path source (MiniC.analyze source limit)

/-- What `check` prints of a file, and the record of `analyze`, is printed as it is. -/
theorem texts_eq_nil {t : Task} (plain : t = check ∨ t = analyze true) (limit : Nat)
    (path source : String) :
    (t.prints limit path (.ok source)).flatMap Report.Print.texts = [] := by
  rcases plain with rfl | rfl
  · show (Report.check source (MiniC.analyze source limit)).flatMap Report.Print.texts = []
    unfold Report.check
    split <;> rfl
  · rfl

end Task

/-! ## The command -/

/-- A path leads to a file with these bytes, as it is written and in its shortest form. -/
structure Leads (disk : Disk) (path : String) (bytes : List UInt8) : Prop where
  isPath : Path.isPath path
  written : disk path = .ok (.file bytes)
  shortened : disk (Path.shorten path) = .ok (.file bytes)

theorem read_path {switches : List (Switch CommandOption)} {path : String}
    (plain : ¬ Arguments.isOption path) :
    Arguments.read switches true [path] = .ok ⟨[], [path]⟩ := by
  have other : path ≠ "--" := by
    rintro rfl
    exact plain (by decide +kernel)
  rw [Arguments.read, if_neg other, if_neg plain]
  rfl

theorem Task.read_arguments {path : String} (plain : ¬ Arguments.isOption path) (t : Task) :
    Arguments.read t.command.switches true (t.arguments path)
      = .ok ⟨if t.json then [(.json, none)] else [], [path]⟩ := by
  cases t with
  | tokens | check | symbols => exact read_path plain
  | analyze json =>
    cases json with
    | false => exact read_path plain
    | true =>
      have shape : Arguments.shape (Command.switches .analyze) "--json"
          = .ok (.options [(.json, none)]) := rfl
      show Arguments.read (Command.switches .analyze) true ["--json", path] = _
      rw [Arguments.read, if_neg (by decide), if_pos (by decide +kernel), shape, read_path plain]
      rfl

/-- A task is requested as it is written. -/
theorem Task.request_arguments {disk : Disk} {path : String} {bytes : List UInt8}
    (leads : Leads disk path bytes) (plain : ¬ Arguments.isOption path) (t : Task) :
    request disk t.command (t.arguments path) = .ok (.file path t.json) := by
  unfold request
  rw [t.read_arguments plain]
  simp only [leads.isPath, leads.written]
  cases t.json <;> rfl

theorem limitFor_limit {s : Settings} (positive : 1 ≤ s.limit) :
    ∃ events, limitFor s.limit = .ok (limitInForce s, events) := by
  have notBelow : ¬ s.limit < 1 := by omega
  unfold limitFor limitInForce
  by_cases le : s.limit ≤ deepestNesting
  · exact ⟨[], by rw [if_neg notBelow, if_pos le, Nat.min_eq_left (by omega)]⟩
  · exact ⟨_, by rw [if_neg notBelow, if_neg le, Nat.min_eq_right (by omega)]⟩

/-- A text is analyzed under the limit in force. -/
theorem analyzeLogged_limit {s : Settings} (positive : 1 ≤ s.limit) (source : String) :
    ∃ log, analyzeLogged source s.limit = .ok (analyze source (limitInForce s), log) := by
  obtain ⟨events, inForce⟩ := limitFor_limit positive
  by_cases clean : (tokenize source).errors = []
  · exact analyzeLogged_of_limit clean inForce
  · exact analyzeLogged_of_errors clean s.limit (limitInForce s)

section
variable (console : Report.Console)

theorem runSource_eq {s : Settings} (positive : 1 ≤ s.limit) (t : Task) (path : String)
    (colour : Bool) (source : String) :
    (runSource console t.command path t.json s colour source).1
      = .report console colour (t.code (limitInForce s) (.ok source))
          (t.prints (limitInForce s) path (.ok source)) := by
  obtain ⟨log, analyzed⟩ := analyzeLogged_limit positive source
  cases t with
  | tokens => rfl
  | check => simp only [runSource, Task.command, analyzed]; rfl
  | symbols => simp only [runSource, Task.command, analyzed]; rfl
  | analyze json => cases json <;> (simp only [runSource, Task.command, analyzed]; rfl)

/-- A command ends as its report does. -/
theorem ending_runCommand {disk : Disk} {path : String} {bytes : List UInt8}
    (leads : Leads disk path bytes) (plain : ¬ Arguments.isOption path) (program : String)
    {s : Settings} (positive : 1 ≤ s.limit) (t : Task) (colour : Bool) (threshold : Nat) :
    (runCommand console disk program t.command (t.arguments path) s colour threshold).ending
      = (Outcome.report console colour (t.code (limitInForce s) (sourceOfBytes bytes))
          (t.prints (limitInForce s) path (sourceOfBytes bytes))).ending := by
  unfold runCommand
  rw [t.request_arguments leads plain]
  simp only [loadSource_file leads.isPath leads.shortened]
  cases sourceOfBytes bytes with
  | error f => cases t <;> rfl
  | ok source =>
    show (runSource console t.command path t.json s colour source).1.ending = _
    rw [runSource_eq console positive]

end

/-! ## The whole run -/

/-- The settings that the environment and the options make. -/
def settingsFor (env : Environment) (flags : List Flag) : Settings :=
  flags.foldl Flag.set (Settings.default.reset env).1

theorem one_le_limit_settingsFor (env : Environment) (flags : List Flag) :
    1 ≤ (settingsFor env flags).limit := by
  obtain ⟨n, depth, positive⟩ := Settings.exists_maxNesting_reset env .default
  refine Flag.one_le_limit_foldl_set flags ?_
  rw [Settings.limit, depth]
  exact positive

/-- The log level stands unless the environment names another thing of the logging system, and
debug logging is off. -/
theorem exists_threshold_settingsFor_iff (env : Environment) (flags : List Flag) :
    (∃ rank, (settingsFor env flags).threshold = .ok rank) ↔
      (settingsFor env flags).debug ∨
        ∀ raw, env.lookup SettingName.logLevel.variableName = some raw →
          Text.upper raw ∉ ["BASIC_FORMAT", "_STYLES"] := by
  have level : (settingsFor env flags).logLevel = (Settings.default.reset env).1.logLevel := by
    rw [settingsFor, Flag.foldl_set flags []]
  rw [Settings.exists_threshold_iff, level, ne_eq, ne_eq,
    Settings.logLevel_reset_eq_iff env .default (by decide) (by decide),
    Settings.logLevel_reset_eq_iff env .default (by decide) (by decide)]
  refine or_congr_right ?_
  simp only [List.mem_cons, List.not_mem_nil, or_false, not_or, not_exists, not_and]
  exact ⟨fun named raw found => ⟨named.1 raw found, named.2 raw found⟩,
    fun named => ⟨fun raw found => (named raw found).1, fun raw found => (named raw found).2⟩⟩

section
variable (console : Report.Console) (disk : Disk) (program : String) (env : Environment)

/-- A run ends as its command does, once there is a threshold for the log. -/
theorem ending_runOn_words (flags : List Flag) (c : Command) (rest : List String) (p : Process) :
    (runOn console disk program env (flags.flatMap Flag.words ++ c.name :: rest) p).1.ending
      = match (settingsFor env flags).threshold with
        | .error f => .broken (.level f)
        | .ok threshold =>
          (runCommand console disk program c rest (settingsFor env flags)
            (settingsFor env flags).color.isOn threshold).ending := by
  have settings : (changesOf ⟨flags.map Flag.option, c.name :: rest⟩ (Flag.lastDepth flags)).foldl
      Settings.apply (p.settings.reset env).1 = settingsFor env flags := by
    rw [Flag.foldl_apply_changesOf, Settings.reset_eq env p.settings .default, settingsFor]
  rw [runOn_words]
  unfold enter
  simp only [settings]
  cases (settingsFor env flags).threshold <;> rfl

/-- A run on a file ends with the exit code that its command asks for exactly if its log level
stands and the console accepts its texts; else it breaks off. -/
theorem ending_eq_exit_iff {path : String} {bytes : List UInt8} (leads : Leads disk path bytes)
    (plain : ¬ Arguments.isOption path) (flags : List Flag) (t : Task) (p : Process) :
    let settings := settingsFor env flags
    let source := sourceOfBytes bytes
    let limit := limitInForce settings
    let ending :=
      (runOn console disk program env (flags.flatMap Flag.words ++ t.words path) p).1.ending
    let levelStands := settings.debug ∨
      ∀ raw, env.lookup SettingName.logLevel.variableName = some raw →
        Text.upper raw ∉ ["BASIC_FORMAT", "_STYLES"]
    let accepted := ∀ text ∈ (t.prints limit path source).flatMap Report.Print.texts,
      console.refusal? text = none
    (ending = .exit (t.code limit source) ↔ levelStands ∧ accepted) ∧
      (¬ (levelStands ∧ accepted) → ∃ why, ending = .broken why) := by
  intro settings source limit ending levelStands accepted
  have positive := one_le_limit_settingsFor env flags
  have standing : (∃ rank, settings.threshold = .ok rank) ↔ levelStands :=
    exists_threshold_settingsFor_iff env flags
  have drawn : (Report.draw console settings.color.isOn (t.prints limit path source)).2 = none ↔
      accepted := draw_eq_none_iff console settings.color.isOn _
  have run : ending = _ := ending_runOn_words console disk program env flags t.command _ p
  simp only [ending_runCommand console leads plain program positive, ending_report] at run
  -- What is left is whether there is a threshold, and then whether the report is drawn to its end.
  rw [run, ← standing, ← drawn]
  cases settings.threshold with
  | error f => simp
  | ok rank =>
    cases (Report.draw console settings.color.isOn (t.prints limit path source)).2 with
    | none =>
      have good : (∃ r, Except.ok (ε := Settings.LevelFault) rank = .ok r) ∧
          (none : Option String) = none := ⟨⟨rank, rfl⟩, rfl⟩
      exact ⟨iff_of_true rfl good, fun bad => absurd good bad⟩
    | some why => simp

end

/-! ## Runs that do and do not break off -/

/-- With debug logging, no log level matters. -/
theorem debug_logging_needs_no_level :
    let disk : Disk := fun _ => .ok (.file [120, 59])
    (Leads disk "a.mc" [120, 59] ∧ ¬ Arguments.isOption "a.mc") ∧
      (runOn .standard disk "minic" [("MINIC_LOG_LEVEL", "basic_format")]
        ["-v", "--max-nesting=7", "check", "a.mc"] (.fresh .default)).1.ending = .exit 0 := by
  intro disk
  let flags : List Flag := [.verbose true, .maxNesting true "7" 7 (by decide +kernel) (by decide)]
  have leads : Leads disk "a.mc" [120, 59] := ⟨by decide +kernel, rfl, rfl⟩
  have plain : ¬ Arguments.isOption "a.mc" := by decide +kernel
  have words : flags.flatMap Flag.words ++ Task.check.words "a.mc"
      = ["-v", "--max-nesting=7", "check", "a.mc"] := by decide
  have code : Task.check.code
      (limitInForce (settingsFor [("MINIC_LOG_LEVEL", "basic_format")] flags))
      (sourceOfBytes [120, 59]) = 0 := by decide +kernel
  have ends := (ending_eq_exit_iff .standard disk "minic" [("MINIC_LOG_LEVEL", "basic_format")]
    leads plain flags .check (.fresh .default)).1.2 ⟨.inl (by decide +kernel), by decide +kernel⟩
  rw [words, code] at ends
  exact ⟨⟨leads, plain⟩, ends⟩

/-- Without it, a log level that names another thing of the logging system breaks the run. -/
theorem a_log_level_breaks_the_run :
    (runOn .standard (fun _ => .ok (.file [120, 59])) "minic" [("MINIC_LOG_LEVEL", "basic_format")]
      ["check", "a.mc"] (.fresh .default)).1.ending
        = .broken (.level (.unknown "%(levelname)s:%(name)s:%(message)s")) := by
  decide +kernel

/-- A string of the file may look like a tag that closes nothing: `"[/b]";`. -/
theorem a_string_breaks_the_run :
    (runOn .standard (fun _ => .ok (.file [34, 91, 47, 98, 93, 34, 59])) "minic" []
      ["tokens", "a.mc"] (.fresh .default)).1.ending
        = .broken (.refused "closing tag '[/b]' at position 1 doesn't match any open tag") := by
  decide +kernel

end MiniC.CommandLine
