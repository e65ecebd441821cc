/-
  MiniC.CommandLine.Arguments — telling the options on a command line from the other
  arguments.

  An argument that starts with a dash and is longer is an option. One whole option may
  carry its value after an equals sign; single letters may stand together behind one dash.
  Two dashes alone end the options. Where options may not stand between other arguments,
  the first other argument ends them as well.
-/

import MiniC.Text.Similar

namespace MiniC.CommandLine

/-- An option: its name, the letter that may stand for it, and whether it takes a value. An
option with a letter takes none. -/
structure Switch (α : Type) where
  option : α
  name : String
  letter : Option Char
  takesValue : Bool

/-- What is wrong with an option. -/
inductive OptionFault where
  | unknown (name : String) (similar : List String)
  | needsValue (name : String)
  | takesNoValue (name : String)
  deriving DecidableEq, Repr

/-- The options of a command line, in order, each with its value, and the other arguments. -/
structure Arguments (α : Type) where
  options : List (α × Option String)
  others : List String

namespace Arguments

variable {α : Type}

/-- Put options before those that follow. -/
def add (os : List (α × Option String)) (a : Arguments α) : Arguments α :=
  { a with options := os ++ a.options }

/-- Put an argument before those that follow. -/
def keep (arg : String) (a : Arguments α) : Arguments α := { a with others := arg :: a.others }

/-- The name in front of the first equals sign, and the value behind it. -/
def cut (arg : String) : String × Option String :=
  let cs := arg.toList
  (String.ofList (cs.takeWhile (· != '=')),
    match cs.dropWhile (· != '=') with
    | [] => none
    | _ :: value => some (String.ofList value))

/-- The options whose letters stand behind a dash. -/
def letters (switches : List (Switch α)) : List Char → Except OptionFault (List (α × Option String))
  | [] => .ok []
  | c :: r =>
    match switches.find? (·.letter == some c) with
    | some s => (letters switches r).map ((s.option, none) :: ·)
    | none => .error (.unknown (String.ofList ['-', c]) [])

/-- What one argument is. -/
inductive Shape (α : Type) where
  /-- Options that are complete. -/
  | options (os : List (α × Option String))
  /-- An option whose value is the next argument. -/
  | awaiting (option : α) (name : String)

/-- Take an argument that is an option apart. -/
def shape (switches : List (Switch α)) (arg : String) : Except OptionFault (Shape α) :=
  let (name, value) := cut arg
  match switches.find? (·.name == name), value with
  | some s, some v =>
    if s.takesValue then .ok (.options [(s.option, some v)]) else .error (.takesNoValue name)
  | some s, none => .ok (if s.takesValue then .awaiting s.option name else .options [(s.option, none)])
  | none, _ =>
    if name.startsWith "--" then
      .error (.unknown name (Text.similar name (switches.map (·.name))))
    else (letters switches (arg.toList.drop 1)).map .options

def isOption (arg : String) : Bool := arg.startsWith "-" && arg.length > 1

/-- Tell the options from the other arguments. When options are not `mixed` with other
arguments, the first of these ends them. -/
def read (switches : List (Switch α)) (mixed : Bool) :
    List String → Except OptionFault (Arguments α)
  | [] => .ok ⟨[], []⟩
  | arg :: rest =>
    if arg = "--" then .ok ⟨[], rest⟩
    else if isOption arg then
      match shape switches arg with
      | .error f => .error f
      | .ok (.options os) => (read switches mixed rest).map (add os)
      | .ok (.awaiting option name) =>
        match rest with
        | [] => .error (.needsValue name)
        | value :: rest => (read switches mixed rest).map (add [(option, some value)])
    else if mixed then (read switches mixed rest).map (keep arg)
    else .ok ⟨[], arg :: rest⟩

/-- Is the option given? -/
def has [BEq α] (a : Arguments α) (option : α) : Bool := a.options.any (·.1 == option)

/-- The value of the option; the last one given counts. -/
def value? [BEq α] (a : Arguments α) (option : α) : Option String :=
  (a.options.reverse.lookup option).join

end Arguments

end MiniC.CommandLine
