/-
  MiniC.Settings — the four settings, how they are changed and where they come from.

  A setting holds a flag, a number or a text. An update names settings and gives values; it
  is refused as a whole when it names an unknown setting or gives a nesting depth that is
  not a number of at least one, and otherwise sets those that it gives a value for
  (`Settings.update`). A reset restores the defaults, one setting after another, and lets the
  variables of an environment override them; a nesting depth there that is not an integer of
  at least one is passed over and reported (`Settings.reset`).
-/

import MiniC.Log
import MiniC.Parser
import MiniC.Text.Integer
import MiniC.Text.Uppercase

namespace MiniC

/-! ## Values -/

inductive Setting where
  | flag (b : Bool)
  | number (n : Int)
  | text (t : String)
  deriving DecidableEq, Repr

namespace Setting

/-- Does the value switch something on? All do but false, zero and the empty text. -/
def isOn : Setting → Bool
  | .flag b => b
  | .number n => n != 0
  | .text t => t != ""

/-- The number that a value counts as; a flag counts as zero or one. -/
def number? : Setting → Option Int
  | .flag b => some (if b then 1 else 0)
  | .number n => some n
  | .text _ => none

/-- The value as text, a text in quotes. -/
def describe : Setting → String
  | .flag b => if b then "True" else "False"
  | .number n => toString n
  | .text t => Text.quote t

end Setting

/-! ## The settings -/

inductive SettingName where
  | debugLogs
  | logLevel
  | maxNesting
  | color
  deriving DecidableEq, Repr

namespace SettingName

def all : List SettingName := [.debugLogs, .logLevel, .maxNesting, .color]

/-- The name by which an update gives the setting. -/
def key : SettingName → String
  | .debugLogs => "enable_debug_logs"
  | .logLevel => "log_level"
  | .maxNesting => "max_nesting_depth"
  | .color => "color"

/-- The variable of the environment that overrides the setting. -/
def variableName : SettingName → String
  | .debugLogs => "MINIC_DEBUG_LOGS"
  | .logLevel => "MINIC_LOG_LEVEL"
  | .maxNesting => "MINIC_MAX_NESTING"
  | .color => "MINIC_COLOR"

def ofKey? (key : String) : Option SettingName := all.find? (·.key == key)

end SettingName

structure Settings where
  debugLogs : Setting
  logLevel : Setting
  maxNesting : Setting
  color : Setting
  deriving DecidableEq, Repr

/-- Why an update is refused. -/
inductive UpdateFault where
  | unknown (key : String)
  | depthNotNumber
  | depthBelowOne
  deriving DecidableEq, Repr

def UpdateFault.message : UpdateFault → String
  | .unknown k => s!"Unknown config option: {k}"
  | .depthNotNumber => "'<' not supported between instances of 'str' and 'int'"
  | .depthBelowOne => LimitFault.belowOne.message

namespace Settings

def default : Settings := ⟨.flag false, .text "WARNING", .number 150, .flag true⟩

def get (s : Settings) : SettingName → Setting
  | .debugLogs => s.debugLogs
  | .logLevel => s.logLevel
  | .maxNesting => s.maxNesting
  | .color => s.color

def set (s : Settings) (name : SettingName) (v : Setting) : Settings :=
  match name with
  | .debugLogs => { s with debugLogs := v }
  | .logLevel => { s with logLevel := v }
  | .maxNesting => { s with maxNesting := v }
  | .color => { s with color := v }

/-- Is debug logging on? -/
def debug (s : Settings) : Bool := s.debugLogs.isOn

/-- The nesting limit that the settings ask for. -/
def limit (s : Settings) : Int := s.maxNesting.number?.getD 0

/-- The events that are reported under the settings. -/
def emitted (s : Settings) (events : List Log.Event) : List Log.Event :=
  events.filter (·.emitted s.debug)

def describe (s : Settings) : String :=
  let entry (name : SettingName) : String :=
    Text.quote name.key ++ ": " ++ (s.get name).describe
  "Config(\x7b" ++ ", ".intercalate (SettingName.all.map entry) ++ "\x7d)"

/-! ## Updates -/

/-- What an update gives: a value for a key, or none to leave the setting as it is. -/
abbrev Change := String × Option Setting

/-- What keeps an update from being made, if anything does: the first unknown key, or else
the nesting depth. -/
def refusal (changes : List Change) : Option UpdateFault :=
  match changes.find? fun c => (SettingName.ofKey? c.1).isNone with
  | some c => some (.unknown c.1)
  | none =>
    match changes.lookup SettingName.maxNesting.key with
    | some (some v) =>
      match v.number? with
      | none => some .depthNotNumber
      | some n => if n < 1 then some .depthBelowOne else none
    | _ => none

def apply (s : Settings) (c : Change) : Settings :=
  match SettingName.ofKey? c.1, c.2 with
  | some name, some v => s.set name v
  | _, _ => s

def update (s : Settings) (changes : List Change) : Except UpdateFault Settings :=
  match refusal changes with
  | some f => .error f
  | none => .ok (changes.foldl apply s)

end Settings

/-! ## The environment -/

/-- The variables of an environment. -/
abbrev Environment := List (String × String)

namespace Environment

def assign (env : Environment) (name value : String) : Environment :=
  (name, value) :: env.filter (·.1 != name)

def unassign (env : Environment) (name : String) : Environment := env.filter (·.1 != name)

end Environment

namespace Settings

/-- Does a text say yes? -/
def isYes (raw : String) : Bool :=
  let word := String.ofList ((Text.trim Text.isBlank raw.toList).map Char.toLower)
  ["1", "true", "yes", "on"].contains word

/-- The value that a variable gives to its setting, or why it gives none. -/
def read (name : SettingName) (raw : String) : Except Log.Refusal Setting :=
  match name with
  | .debugLogs => .ok (.flag (isYes raw))
  | .color => .ok (.flag (isYes raw))
  | .logLevel => .ok (.text (Text.upper raw))
  | .maxNesting =>
    match Text.integer? raw with
    | none => .error .notInteger
    | some n => if n < 1 then .error .belowOne else .ok (.number n)

/-- Let a variable override its setting, unless it is absent or empty. -/
def override (env : Environment) (s : Settings × List Log.Event) (name : SettingName) :
    Settings × List Log.Event :=
  match env.lookup name.variableName with
  | none => s
  | some raw =>
    if raw = "" then s
    else
      match read name raw with
      | .ok v => (s.1.set name v, s.2)
      | .error why => (s.1, s.2 ++ [.ignored name.variableName raw why])

/-- Give every setting its default. -/
def restore (s : Settings) : Settings :=
  SettingName.all.foldl (fun s name => s.set name (default.get name)) s

/-- Restore the defaults and let the variables override them; tell what is reported about
these. -/
def reset (env : Environment) (s : Settings) : Settings × List Log.Event :=
  SettingName.all.foldl (override env) (s.restore, [])

/-! ## Log levels -/

/-- Why a name gives no log level: it is that of another thing in the logging system. -/
inductive LevelFault where
  /-- A text, which names no level in turn. -/
  | unknown (text : String)
  /-- A thing that cannot name a level; it is described. -/
  | notLevel (thing : String)
  deriving DecidableEq, Repr

def LevelFault.message : LevelFault → String
  | .unknown text => "Unknown level: " ++ Text.quote text
  | .notLevel thing => "Level not an integer or a valid string: " ++ thing

/-- The thresholds that have a name. -/
def levelNames : List (String × Nat) :=
  [("CRITICAL", 50), ("FATAL", 50), ("ERROR", 40), ("WARNING", 30), ("WARN", 30), ("INFO", 20),
   ("DEBUG", 10), ("NOTSET", 0)]

/-- The styles in which the format of a log line may be written: the sign that marks a
field, the class that fills the fields in, and the format that is taken if none is given. -/
def formatStyles : List (String × String × String) :=
  [("%", "logging.PercentStyle", "%(levelname)s:%(name)s:%(message)s"),
   ("\x7b", "logging.StrFormatStyle", "\x7blevelname\x7d:\x7bname\x7d:\x7bmessage\x7d"),
   ("$", "logging.StringTemplateStyle", "$\x7blevelname\x7d:$\x7bname\x7d:$\x7bmessage\x7d")]

def describeStyles : String :=
  let entry (sign className format : String) : String :=
    Text.quote sign ++ ": (<class " ++ Text.quote className ++ ">, " ++ Text.quote format ++ ")"
  "\x7b" ++ ", ".intercalate (formatStyles.map fun (s, c, f) => entry s c f) ++ "\x7d"

/-- The names in upper case that the logging system uses for other things than levels. -/
def otherLogNames : List (String × LevelFault) :=
  [("BASIC_FORMAT", .unknown "%(levelname)s:%(name)s:%(message)s"),
   ("_STYLES", .notLevel describeStyles)]

/-- The threshold that a level name stands for; an unknown name stands for a warning. -/
def levelFor (name : String) : Except LevelFault Nat :=
  match levelNames.lookup name with
  | some rank => .ok rank
  | none =>
    match otherLogNames.lookup name with
    | some fault => .error fault
    | none => .ok Log.Level.warning.rank

/-- The threshold from which on events are printed. -/
def threshold (s : Settings) : Except LevelFault Nat :=
  if s.debug then .ok Log.Level.debug.rank
  else
    match s.logLevel with
    | .text name => levelFor name
    | _ => .ok Log.Level.warning.rank

end Settings

/-- The settings in force beside the environment that a reset takes them from. -/
structure Configuration where
  environment : Environment
  settings : Settings
  deriving DecidableEq, Repr

namespace Configuration

/-- Take the settings from the environment. -/
def reset (c : Configuration) : Configuration × List Log.Event :=
  let (settings, events) := c.settings.reset c.environment
  ({ c with settings := settings }, events)

/-- The configuration of an environment. -/
def ofEnvironment (env : Environment) : Configuration × List Log.Event :=
  reset ⟨env, .default⟩

def update (c : Configuration) (changes : List Settings.Change) :
    Except UpdateFault Configuration :=
  (c.settings.update changes).map fun settings => { c with settings := settings }

end Configuration

end MiniC
