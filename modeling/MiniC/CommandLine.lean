/-
  MiniC.CommandLine — running a command line.

  A run goes through stages. The options before the command are read, and the command is
  looked up; up to here the settings are left alone. Then the settings are taken from the
  environment and overridden by the options, and the log threshold is found. Only then are
  the arguments of the command read and the command is run. A run ends with an exit code,
  or breaks off: when the log level names a thing that is no level, when the file that the
  command asks for is named by a text that is no path, or when the console refuses a text
  that is printed. (It would break off as well at settings without a nesting limit; no stage
  makes such settings.)

  The console is a parameter (`runOn`); the program runs on the standard one (`run`). Several
  runs may share a process. The settings, the colours of the console and the log outlive a run
  (`Process`). The log is set up by the first run that has settings; what is reported before
  that is printed as a bare message, and every later event as a log line.
-/

import MiniC.CommandLine.Usage
import MiniC.Report
import MiniC.Settings
import MiniC.Source
import MiniC.Text.Alphanumeric

namespace MiniC.CommandLine

/-- Why a run breaks off. -/
inductive Breakdown where
  | level (fault : Settings.LevelFault)
  | limit (fault : LimitFault)
  | notPath
  | refused (why : String)
  deriving DecidableEq, Repr

def Breakdown.message : Breakdown → String
  | .level f => f.message
  | .limit f => f.message
  | .notPath => LoadFault.notPath.message
  | .refused why => why

inductive Ending where
  | exit (code : Nat)
  | broken (why : Breakdown)
  deriving DecidableEq, Repr

/-- What a run prints on its two channels, line by line, and how it ends. -/
structure Outcome where
  ending : Ending
  out : List String
  err : List String
  deriving DecidableEq, Repr

namespace Outcome

def exit (code : Nat) (out : List String) : Outcome := ⟨.exit code, out, []⟩

/-- Print a report and end with an exit code, unless the console refuses it. -/
def report (console : Report.Console) (colour : Bool) (code : Nat) (prints : List Report.Print) :
    Outcome :=
  match Report.draw console colour prints with
  | (lines, none) => .exit code lines
  | (lines, some why) => ⟨.broken (.refused why), lines, []⟩

/-- Print lines on the second channel before all others. -/
def after (lines : List String) (o : Outcome) : Outcome := { o with err := lines ++ o.err }

end Outcome

/-- What outlives a run. -/
structure Process where
  settings : Settings
  /-- Does the console draw colours, as far as its channel shows any? -/
  colour : Bool
  /-- The threshold of the log, once it has been set up. -/
  log : Option Nat
  deriving DecidableEq, Repr

namespace Process

/-- A process in which nothing has been run. -/
def fresh (s : Settings) : Process := ⟨s, true, none⟩

/-- The process after its log has been set up without a threshold of its own. -/
def withLog (p : Process) : Process := { p with log := some (p.log.getD Log.Level.warning.rank) }

/-- How events are printed that come before the settings. -/
def notes (p : Process) (events : List Log.Event) : List String :=
  match p.log with
  | none => (events.filter (·.reaches Log.Level.warning.rank)).map (·.message)
  | some threshold => (events.filter (·.reaches threshold)).map (·.line)

end Process

/-- The exit code of a run: zero if all is well with the source. -/
def codeFor (ok : Bool) : Nat := if ok then 0 else 1

def misuse (program : String) (c : Option Command) (f : Fault) : Outcome :=
  ⟨.exit 2, [], f.lines program c⟩

/-! ## The command -/

/-- What the command is asked to do. -/
inductive Request where
  | help
  | file (path : String) (json : Bool)
  deriving DecidableEq, Repr

/-- Read the arguments after the command. A file named by what is no path is not looked
for. -/
def request (disk : Disk) (c : Command) (args : List String) : Except Fault Request :=
  match Arguments.read c.switches true args with
  | .error f => .error (.option f)
  | .ok given =>
    if given.has .help then .ok .help
    else
      match given.others with
      | [] => .error .noFile
      | path :: extra =>
        if !Path.isPath path then .ok (.file path (given.has .json))
        else match disk path with
        | .error _ => .error (.fileMissing path)
        | .ok .directory => .error (.fileIsDirectory path)
        | .ok (.file _) =>
          if extra.isEmpty then .ok (.file path (given.has .json)) else .error (.extra extra)

/-- The lines of the log, under the settings and from the threshold on. -/
def logLines (s : Settings) (threshold : Nat) (events : List Log.Event) : List String :=
  ((s.emitted events).filter (·.reaches threshold)).map (·.line)

section
variable (console : Report.Console)

/-- Run a command on a source text; the events are those of the work done. -/
def runSource (c : Command) (path : String) (json : Bool) (s : Settings) (colour : Bool)
    (source : String) : Outcome × List Log.Event :=
  match c with
  | .tokens =>
    let lexer := lex source
    let lexed := lexer.result
    (.report console colour (codeFor lexed.errors.isEmpty) (Report.tokens source lexed),
      lexer.events)
  | _ =>
    match analyzeLogged source s.limit with
    | .error f => (⟨.broken (.limit f), [], []⟩, [])
    | .ok (analysis, events) =>
      match c with
      | .symbols => (.report console colour 0 (Report.symbols analysis), events)
      | .analyze =>
        let prints := if json then Report.json analysis else Report.full path source analysis
        (.report console colour (codeFor analysis.ok) prints, events)
      | _ => (.report console colour (codeFor analysis.ok) (Report.check source analysis), events)

/-- Run a command with its arguments, once the settings are made. -/
def runCommand (disk : Disk) (program : String) (c : Command) (args : List String) (s : Settings)
    (colour : Bool) (threshold : Nat) : Outcome :=
  match request disk c args with
  | .error f => misuse program (some c) f
  | .ok .help => .exit 0 (commandHelp program c)
  | .ok (.file path json) =>
    match loadSource disk path with
    | .error .notPath => ⟨.broken .notPath, [], []⟩
    | .error f => .report console colour 2 (Report.unreadable f.message)
    | .ok source =>
      let (outcome, events) := runSource console c path json s colour source
      outcome.after (logLines s threshold events)

end

/-! ## The options before the command -/

/-- The nesting limit that the options give. -/
def limitOf (given : Arguments MainOption) : Except Fault (Option Int) :=
  match given.value? .maxNesting with
  | none => .ok none
  | some raw =>
    match Text.integer? raw with
    | none => .error (.notInteger raw)
    | some n => if n < 1 then .error (.belowOne n) else .ok (some n)

/-- The settings that the options override. -/
def changesOf (given : Arguments MainOption) (limit : Option Int) : List Settings.Change :=
  [(SettingName.debugLogs.key, if given.has .verbose then some (.flag true) else none),
    (SettingName.color.key, if given.has .noColor then some (.flag false) else none),
    (SettingName.maxNesting.key, limit.map .number)]

/-- Does a name that is no command look like an option, so that the help is shown? -/
def looksLikeOption (name : String) : Bool :=
  name.toList.head?.any fun c => !Text.isAlphanumeric c

section
variable (console : Report.Console)

/-- Take the settings from the environment and the options, and go on to the command. What an
earlier run has left is written over. -/
def enter (disk : Disk) (program : String) (env : Environment) (given : Arguments MainOption)
    (limit : Option Int) (c : Command) (args : List String) (p : Process) : Outcome × Process :=
  let (base, events) := p.settings.reset env
  let settings := (changesOf given limit).foldl Settings.apply base
  let notes := p.notes events
  match settings.threshold with
  | .error f => (⟨.broken (.level f), [], notes⟩, { p.withLog with settings := settings })
  | .ok threshold =>
    let colour := settings.color.isOn
    ((runCommand console disk program c args settings colour threshold).after notes,
      ⟨settings, colour, some threshold⟩)

/-- Run a command line in a process. -/
def runOn (disk : Disk) (program : String) (env : Environment) (args : List String) (p : Process) :
    Outcome × Process :=
  let help := Outcome.exit 0 (mainHelp program)
  if args.isEmpty then (help, p)
  else
    match Arguments.read mainSwitches false args with
    | .error f => (misuse program none (.option f), p)
    | .ok given =>
      if given.has .version then (.exit 0 [versionLine], p)
      else if given.has .help then (help, p)
      else
        match limitOf given, given.others with
        | .error f, _ => (misuse program none f, p)
        | .ok _, [] => (misuse program none .noCommand, p)
        | .ok limit, name :: rest =>
          match Command.ofName? name with
          | some c => enter console disk program env given limit c rest p
          | none =>
            if looksLikeOption name then (help, p)
            else (misuse program none (.unknownCommand name), p)

end

/-- Run a command line on the standard console, in a process that has its settings from an
earlier run and whose log is still to be set up. -/
def run (disk : Disk) (program : String) (env : Environment) (args : List String) (s : Settings) :
    Outcome × Settings :=
  let (outcome, p) := runOn .standard disk program env args (.fresh s)
  (outcome, p.settings)

/-- The arguments of a launcher that shows the help when it is given none, and analyzes a
file when it is given just that. -/
def shorthand : List String → List String
  | [] => ["--help"]
  | [arg] => if arg.endsWith ".mc" then ["analyze", arg] else [arg]
  | args => args

end MiniC.CommandLine
