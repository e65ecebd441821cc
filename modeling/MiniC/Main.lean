/-
  MiniC.Main — the command line program.

  It reads the four variables of its environment and the files that its arguments name, and
  prints what `CommandLine.run` answers.
-/

import MiniC.CommandLine

namespace MiniC.Program

/-- The variables of the environment that the settings look at. -/
def environment : IO Environment := do
  let mut env : Environment := []
  for name in SettingName.all do
    if let some value ← IO.getEnv name.variableName then
      env := env.assign name.variableName value
  return env

/-- What a path leads to: a file with its bytes, a directory, or nothing. -/
def entryAt (path : String) : IO (Except ReadFault Entry) := do
  try
    let bytes ← IO.FS.readBinFile path
    return .ok (.file bytes.toList)
  catch
    | .inappropriateType .. => return .ok .directory
    | _ => return .error .notFound

/-- The part of the disk that the arguments name, in full or in short. -/
def disk (args : List String) : IO Disk := do
  let mut known : List (String × Except ReadFault Entry) := []
  for path in args ++ args.map Path.shorten do
    known := (path, ← entryAt path) :: known
  let found := known
  return fun path => (found.lookup path).getD (.error .notFound)

def printAll (stream : IO.FS.Stream) (lines : List String) : IO Unit := do
  stream.putStr (Report.text lines)
  stream.flush

end MiniC.Program

/-- Run the command line program. -/
def main (args : List String) : IO UInt32 := do
  let env ← MiniC.Program.environment
  let disk ← MiniC.Program.disk args
  let (outcome, _) := MiniC.CommandLine.run disk "minic" env args .default
  MiniC.Program.printAll (← IO.getStdout) outcome.out
  MiniC.Program.printAll (← IO.getStderr) outcome.err
  match outcome.ending with
  | .exit code => return code.toUInt32
  | .broken why =>
    MiniC.Program.printAll (← IO.getStderr) [why.message]
    return 1
