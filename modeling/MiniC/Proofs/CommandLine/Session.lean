/-
  MiniC.Proofs.CommandLine.Session — several runs in one process.

  The settings, the colours of the console and the log outlive a run. A run that gets as far as
  its settings writes all three over before a command reads them, and one that does not reads
  none of them. What an earlier run has left can be seen in one place only: what is reported
  while the settings are taken is printed as the log was set up before. That goes to the second
  channel.

  Proved:
  - `runOn_visible`: how a run ends and what it prints on the first channel is the same in every
    process.
  - `session_eq_alone`: so the runs of one process, whatever they are, end and print as each
    does in a process of its own.
-/

import MiniC.CommandLine
import MiniC.Proofs.Settings

namespace MiniC.CommandLine

/-- How a run ends, and what it prints on the first channel. -/
def Outcome.visible (o : Outcome) : Ending × List String := (o.ending, o.out)

@[simp] theorem Outcome.visible_after (lines : List String) (o : Outcome) :
    (o.after lines).visible = o.visible := rfl

section
variable (console : Report.Console) (disk : Disk)

/-! ## One run -/

/-- A run that takes its settings shows nothing of what was there before. -/
theorem enter_visible (program : String) (env : Environment) (given : Arguments MainOption)
    (limit : Option Int) (c : Command) (args : List String) (p p' : Process) :
    (enter console disk program env given limit c args p).1.visible
      = (enter console disk program env given limit c args p').1.visible := by
  unfold enter
  rw [Settings.reset_eq env p.settings p'.settings]
  simp only
  split <;> rfl

/-- A run ends and prints in the same way in every process. -/
theorem runOn_visible (program : String) (env : Environment) (args : List String)
    (p p' : Process) :
    (runOn console disk program env args p).1.visible
      = (runOn console disk program env args p').1.visible := by
  unfold runOn
  by_cases none : args.isEmpty
  · simp only [if_pos none]
  simp only [if_neg none]
  cases Arguments.read mainSwitches false args with
  | error f => rfl
  | ok given =>
    by_cases version : given.has .version
    · simp only [if_pos version]
    by_cases help : given.has .help
    · simp only [if_neg version, if_pos help]
    simp only [if_neg version, if_neg help]
    cases limitOf given with
    | error f => rfl
    | ok limit =>
      cases given.others with
      | nil => rfl
      | cons name rest =>
        cases known : Command.ofName? name with
        | some c => simpa [known] using enter_visible console disk program env given limit c rest p p'
        | none => simp only [known]; split <;> rfl

/-! ## Runs in a row -/

/-- A command line, and the environment that it is run in. -/
structure Invocation where
  program : String
  env : Environment
  args : List String
  deriving DecidableEq, Repr

/-- The outcomes of invocations in one process, each in what those before it have left. -/
def session : List Invocation → Process → List Outcome
  | [], _ => []
  | i :: later, p =>
    let (outcome, left) := runOn console disk i.program i.env i.args p
    outcome :: session later left

/-- The outcome of an invocation in a process of its own, which starts with the settings of the
environment. -/
def Invocation.alone (i : Invocation) : Outcome :=
  (runOn console disk i.program i.env i.args (.fresh (Settings.default.reset i.env).1)).1

/-- The invocations of one process end and print on the first channel as each of them does alone. -/
theorem session_eq_alone (invocations : List Invocation) (p : Process) :
    (session console disk invocations p).map Outcome.visible
      = invocations.map fun i => (i.alone console disk).visible := by
  induction invocations generalizing p with
  | nil => rfl
  | cons i later ih =>
    have first := runOn_visible console disk i.program i.env i.args p
      (.fresh (Settings.default.reset i.env).1)
    rw [session, List.map_cons, List.map_cons, ih, first]
    rfl

end

/-- On the second channel a run does show what was there before: a warning about the environment is
a bare message in the first run of a process, and a line of the log in the second. -/
theorem a_warning_depends_on_earlier_runs :
    let check : Invocation := ⟨"minic", [("MINIC_MAX_NESTING", "deep")], ["check", "a.mc"]⟩
    let disk : Disk := fun _ => .ok (.file [])
    (session .standard disk [check, check] (.fresh .default)).map (·.err)
      = [["Ignoring MINIC_MAX_NESTING='deep': not an integer"],
        ["WARNING minic.config: Ignoring MINIC_MAX_NESTING='deep': not an integer"]] := by
  decide +kernel

end MiniC.CommandLine
