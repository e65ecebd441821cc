/-
  MiniC.CommandLine.Usage — the commands and options, the help texts, and what is said
  about a command line that is wrong.

  A fault names the part of the command line whose usage is shown with it. A fault of an
  option's form is found before anything is known about that part, and stands alone. What
  is said about a fault does not steer the terminal, whatever the command line holds.
-/

import MiniC.CommandLine.Arguments
import MiniC.Text.ControlSequence
import MiniC.Text.Quoted

namespace MiniC.CommandLine

/-! ## Commands and options -/

inductive Command where
  | tokens
  | check
  | symbols
  | analyze
  deriving DecidableEq, Repr

namespace Command

/-- The commands in the order of their names. -/
def all : List Command := [.analyze, .check, .symbols, .tokens]

def name : Command → String
  | .tokens => "tokens"
  | .check => "check"
  | .symbols => "symbols"
  | .analyze => "analyze"

def summary : Command → String
  | .tokens => "Show the tokens of a MiniC file"
  | .check => "Check a MiniC file for lexical, syntax and semantic errors"
  | .symbols => "Show the symbol table of a MiniC file"
  | .analyze => "Run the full analysis and print a report"

def ofName? (name : String) : Option Command := all.find? (·.name == name)

end Command

/-- The options before the command. -/
inductive MainOption where
  | version
  | verbose
  | noColor
  | maxNesting
  | help
  deriving DecidableEq, Repr

/-- The options after the command. -/
inductive CommandOption where
  | json
  | help
  deriving DecidableEq, Repr

def mainSwitches : List (Switch MainOption) :=
  [⟨.version, "--version", none, false⟩, ⟨.verbose, "--verbose", some 'v', false⟩,
   ⟨.noColor, "--no-color", none, false⟩, ⟨.maxNesting, "--max-nesting", none, true⟩,
   ⟨.help, "--help", none, false⟩]

def Command.switches (c : Command) : List (Switch CommandOption) :=
  let help : Switch CommandOption := ⟨.help, "--help", none, false⟩
  match c with
  | .analyze => [⟨.json, "--json", none, false⟩, help]
  | _ => [help]

/-! ## Help -/

def versionLine : String := "minic, version 0.1.0"

def mainUsage (program : String) : String := s!"Usage: {program} [OPTIONS] COMMAND [ARGS]..."

def commandUsage (program : String) (c : Command) : String :=
  s!"Usage: {program} {c.name} [OPTIONS] FILE"

def mainHelp (program : String) : List String :=
  [mainUsage program,
    "",
    "  MiniC analyzer - tokens, syntax errors and scoped symbol tables",
    "",
    "Options:",
    "  --version                    Show the version and exit.",
    "  -v, --verbose                Enable debug logging",
    "  --no-color                   Disable colored output",
    "  --max-nesting INTEGER RANGE  Deepest block/parenthesis nesting to follow",
    "                               [x>=1]",
    "  --help                       Show this message and exit.",
    "",
    "Commands:"]
    ++ Command.all.map fun c => "  " ++ c.name.pushn ' ' (9 - c.name.length) ++ c.summary

def commandHelp (program : String) (c : Command) : List String :=
  [commandUsage program c, "", "  " ++ c.summary, "", "Options:"]
    ++ (if c = .analyze then ["  --json  Emit the full report as JSON"] else [])
    ++ ["  --help  Show this message and exit."]

/-! ## Faults -/

/-- What is wrong with a command line. -/
inductive Fault where
  | option (f : OptionFault)
  | notInteger (value : String)
  | belowOne (value : Int)
  | noCommand
  | unknownCommand (name : String)
  | noFile
  | fileMissing (path : String)
  | fileIsDirectory (path : String)
  | extra (arguments : List String)
  deriving DecidableEq, Repr

/-- What is offered in place of an unknown option. -/
def offer : List String → String
  | [] => ""
  | [name] => s!" Did you mean {name}?"
  | names => " (Possible options: " ++ ", ".intercalate names ++ ")"

def OptionFault.message : OptionFault → String
  | .unknown name names => s!"No such option: {name}" ++ offer names
  | .needsValue name => s!"Option {Text.quote name} requires an argument."
  | .takesNoValue name => s!"Option {Text.quote name} does not take a value."

namespace Fault

def message : Fault → String
  | .option f => f.message
  | .notInteger v =>
    s!"Invalid value for '--max-nesting': {Text.quote v} is not a valid integer range."
  | .belowOne n => s!"Invalid value for '--max-nesting': {n} is not in the range x>=1."
  | .noCommand => "Missing command."
  | .unknownCommand n => s!"No such command {Text.quote n}."
  | .noFile => "Missing argument 'FILE'."
  | .fileMissing p => s!"Invalid value for 'FILE': File {Text.quote p} does not exist."
  | .fileIsDirectory p => s!"Invalid value for 'FILE': File {Text.quote p} is a directory."
  | .extra [a] => s!"Got unexpected extra argument ({a})"
  | .extra as => "Got unexpected extra arguments (" ++ " ".intercalate as ++ ")"

/-- Does the fault stand without the usage? -/
def standsAlone : Fault → Bool
  | .option (.needsValue _) => true
  | .option (.takesNoValue _) => true
  | _ => false

/-- The lines about a fault before the command (`none`) or after it. -/
def lines (f : Fault) (program : String) (c : Option Command) : List String :=
  let usage := match c with
    | none => [mainUsage program, s!"Try '{program} --help' for help.", ""]
    | some c => [commandUsage program c, s!"Try '{program} {c.name} --help' for help.", ""]
  let message := String.ofList (Text.dropSequences f.message.toList)
  (if f.standsAlone then [] else usage) ++ ["Error: " ++ message]

end Fault

end MiniC.CommandLine
