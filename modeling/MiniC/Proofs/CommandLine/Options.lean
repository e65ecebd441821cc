/-
  MiniC.Proofs.CommandLine.Options — a command line that is well formed up to its command.

  The options before a command set the settings, and what they set does not depend on how they
  are written: a letter or a name, a value behind an equals sign or after a blank. They are given
  in any order and number (`Flag`).

  Proved:
  - `Flag.read_flatMap_words`: such options are read as what they are, up to the command.
  - `Flag.foldl_apply_changesOf`: the settings that they override are those that one option after
    another sets, the last one of a kind counting.
  - `runOn_words`: so a run with them goes on to its command.
-/

import MiniC.CommandLine
import MiniC.Proofs.Settings

namespace MiniC.CommandLine

/-! ## Options before the command -/

/-- An option before the command, as it may be written. -/
inductive Flag where
  | verbose (short : Bool)
  | noColor
  /-- A nesting depth, which may stand behind an equals sign. -/
  | maxNesting (joined : Bool) (raw : String) (depth : Int) (told : Text.integer? raw = some depth)
      (positive : 1 ≤ depth)

namespace Flag

def words : Flag → List String
  | verbose false => ["--verbose"]
  | verbose true => ["-v"]
  | noColor => ["--no-color"]
  | maxNesting false raw _ _ _ => ["--max-nesting", raw]
  | maxNesting true raw _ _ _ => ["--max-nesting=" ++ raw]

def option : Flag → MainOption × Option String
  | verbose _ => (.verbose, none)
  | noColor => (.noColor, none)
  | maxNesting _ raw _ _ _ => (.maxNesting, some raw)

/-- Set what the option is about. -/
def set (s : Settings) : Flag → Settings
  | verbose _ => { s with debugLogs := .flag true }
  | noColor => { s with color := .flag false }
  | maxNesting _ _ depth _ _ => { s with maxNesting := .number depth }

theorem cut_joined (raw : String) :
    Arguments.cut ("--max-nesting=" ++ raw) = ("--max-nesting", some raw) := by
  have split : ("--max-nesting=" ++ raw).toList = "--max-nesting".toList ++ '=' :: raw.toList := by
    rw [String.toList_append]
    rfl
  have name : ∀ c ∈ "--max-nesting".toList, (c != '=') = true := List.all_eq_true.1 (by decide)
  unfold Arguments.cut
  simp only [split]
  rw [List.takeWhile_append_of_pos name, List.dropWhile_append_of_pos name]
  simp

theorem shape_joined (raw : String) :
    Arguments.shape mainSwitches ("--max-nesting=" ++ raw)
      = .ok (.options [(.maxNesting, some raw)]) := by
  unfold Arguments.shape
  rw [cut_joined]
  rfl

theorem length_joined (raw : String) : 14 ≤ ("--max-nesting=" ++ raw).length := by
  rw [String.length_append]
  exact Nat.le_add_right 14 raw.length

theorem isOption_joined (raw : String) : Arguments.isOption ("--max-nesting=" ++ raw) := by
  have dash : ("--max-nesting=" ++ raw).startsWith "-" := by
    rw [String.startsWith_string_iff, String.toList_append]
    exact ⟨"-max-nesting=".toList ++ raw.toList, by simp⟩
  have long := length_joined raw
  simp only [Arguments.isOption, dash, Bool.true_and, decide_eq_true_eq]
  omega

theorem joined_ne (raw : String) : "--max-nesting=" ++ raw ≠ "--" := by
  intro same
  have long := length_joined raw
  rw [same] at long
  exact absurd long (by decide)

theorem read_option {word : String} {os : List (MainOption × Option String)} (other : word ≠ "--")
    (isOption : Arguments.isOption word)
    (shape : Arguments.shape mainSwitches word = .ok (.options os)) (rest : List String) :
    Arguments.read mainSwitches false (word :: rest)
      = (Arguments.read mainSwitches false rest).map (Arguments.add os) := by
  rw [Arguments.read, if_neg other, if_pos isOption, shape]

/-- An option is read as what it is. -/
theorem read_words (f : Flag) (rest : List String) :
    Arguments.read mainSwitches false (f.words ++ rest)
      = (Arguments.read mainSwitches false rest).map (Arguments.add [f.option]) := by
  cases f with
  | verbose short =>
    cases short with
    | false => exact read_option (by decide) (by decide +kernel) rfl rest
    | true =>
      have single : ("-v".startsWith "--") = false := by decide +kernel
      have shape : Arguments.shape mainSwitches "-v" = .ok (.options [(.verbose, none)]) := by
        show (if "-v".startsWith "--" then _ else _) = _
        rw [single]
        rfl
      exact read_option (by decide) (by decide +kernel) shape rest
  | noColor => exact read_option (by decide) (by decide +kernel) rfl rest
  | maxNesting joined raw depth told positive =>
    cases joined with
    | false =>
      have shape : Arguments.shape mainSwitches "--max-nesting"
          = .ok (.awaiting .maxNesting "--max-nesting") := rfl
      rw [words, List.cons_append, List.singleton_append, Arguments.read, if_neg (by decide),
        if_pos (by decide +kernel), shape]
      rfl
    | true => exact read_option (joined_ne raw) (isOption_joined raw) (shape_joined raw) rest

/-- Options are read up to the name of the command. -/
theorem read_flatMap_words (flags : List Flag) {name : String} (plain : ¬ Arguments.isOption name)
    (rest : List String) :
    Arguments.read mainSwitches false (flags.flatMap words ++ name :: rest)
      = .ok ⟨flags.map option, name :: rest⟩ := by
  induction flags with
  | nil =>
    have other : name ≠ "--" := by
      rintro rfl
      exact plain (by decide +kernel)
    rw [List.flatMap_nil, List.nil_append, Arguments.read, if_neg other, if_neg plain]
    rfl
  | cons f flags ih =>
    rw [List.flatMap_cons, List.append_assoc, read_words, ih]
    rfl

/-! ## The settings that the options make -/

/-- The nesting depth that is given last. -/
def lastDepth : List Flag → Option Int
  | [] => none
  | maxNesting _ _ depth _ _ :: later => lastDepth later <|> some depth
  | _ :: later => lastDepth later

/-- The text of the depth that is given last is what the options are asked for. -/
theorem lookup_lastDepth (flags : List Flag) :
    ((flags.map option).reverse.lookup .maxNesting = none ∧ lastDepth flags = none) ∨
      ∃ raw depth, (flags.map option).reverse.lookup .maxNesting = some (some raw) ∧
        Text.integer? raw = some depth ∧ 1 ≤ depth ∧ lastDepth flags = some depth := by
  -- The options are looked through from the last on, so the first of them counts only where no
  -- later one gives a depth.
  induction flags with
  | nil => exact .inl ⟨rfl, rfl⟩
  | cons f later ih =>
    rw [List.map_cons, List.reverse_cons, List.lookup_append]
    cases f with
    | maxNesting joined raw depth told positive =>
      rcases ih with ⟨none, none'⟩ | ⟨raw', depth', found, told', positive', last⟩
      · exact .inr ⟨raw, depth, by rw [none]; rfl, told, positive, by rw [lastDepth, none']; rfl⟩
      · exact .inr ⟨raw', depth', by rw [found]; rfl, told', positive', by rw [lastDepth, last]; rfl⟩
    | verbose | noColor =>
      rcases ih with ⟨none, none'⟩ | ⟨raw, depth, found, told, positive, last⟩
      · exact .inl ⟨by rw [none]; rfl, none'⟩
      · exact .inr ⟨raw, depth, by rw [found]; rfl, told, positive, last⟩

/-- The depth that is given last is taken. -/
theorem limitOf_eq (flags : List Flag) (others : List String) :
    limitOf ⟨flags.map option, others⟩ = .ok (lastDepth flags) := by
  unfold limitOf Arguments.value?
  rcases lookup_lastDepth flags with ⟨none, none'⟩ | ⟨raw, depth, found, told, positive, last⟩
  · rw [none, none']
    rfl
  · have notBelow : ¬ depth < 1 := by omega
    simp only [found, last, Option.join_some, told, if_neg notBelow]

theorem foldl_changesOf (given : Arguments MainOption) (limit : Option Int) (s : Settings) :
    (changesOf given limit).foldl Settings.apply s
      = { debugLogs := if given.has .verbose then .flag true else s.debugLogs
          logLevel := s.logLevel
          maxNesting := (limit.map .number).getD s.maxNesting
          color := if given.has .noColor then .flag false else s.color } := by
  unfold changesOf
  cases given.has .verbose <;> cases given.has .noColor <;> cases limit <;> rfl

theorem has_cons (f : Flag) (later : List Flag) (others : List String) (o : MainOption) :
    Arguments.has ⟨(f :: later).map option, others⟩ o
      = (f.option.1 == o || Arguments.has ⟨later.map option, others⟩ o) := rfl

theorem foldl_set (flags : List Flag) (others : List String) (s : Settings) :
    flags.foldl set s
      = { debugLogs :=
            if Arguments.has ⟨flags.map option, others⟩ .verbose then .flag true else s.debugLogs
          logLevel := s.logLevel
          maxNesting := ((lastDepth flags).map .number).getD s.maxNesting
          color :=
            if Arguments.has ⟨flags.map option, others⟩ .noColor then .flag false else s.color } := by
  induction flags generalizing s with
  | nil => rfl
  | cons f later ih =>
    rw [List.foldl_cons, ih, has_cons, has_cons]
    cases f with
    | verbose short => cases Arguments.has ⟨later.map option, others⟩ .verbose <;> rfl
    | noColor => cases Arguments.has ⟨later.map option, others⟩ .noColor <;> rfl
    | maxNesting joined raw depth told positive => rw [lastDepth]; cases lastDepth later <;> rfl

/-- The options override what one after another sets. -/
theorem foldl_apply_changesOf (flags : List Flag) (others : List String) (s : Settings) :
    (changesOf ⟨flags.map option, others⟩ (lastDepth flags)).foldl Settings.apply s
      = flags.foldl set s := by
  rw [foldl_changesOf, foldl_set]

theorem has_eq_false (flags : List Flag) (others : List String) {o : MainOption}
    (other : ∀ f : Flag, f.option.1 ≠ o) :
    Arguments.has ⟨flags.map option, others⟩ o = false := by
  induction flags with
  | nil => rfl
  | cons f later ih => rw [has_cons, ih, Bool.or_false, beq_eq_false_iff_ne.2 (other f)]

theorem option_ne_version (f : Flag) : f.option.1 ≠ .version := by cases f <;> exact nofun

theorem option_ne_help (f : Flag) : f.option.1 ≠ .help := by cases f <;> exact nofun

/-- An option leaves the nesting limit at one or more. -/
theorem one_le_limit_foldl_set (flags : List Flag) {s : Settings} (positive : 1 ≤ s.limit) :
    1 ≤ (flags.foldl set s).limit := by
  induction flags generalizing s with
  | nil => exact positive
  | cons f later ih =>
    refine ih ?_
    cases f with
    | verbose | noColor => exact positive
    | maxNesting joined raw depth told positive => exact positive

end Flag

/-! ## A run up to its command -/

theorem Command.not_isOption_name (c : Command) : ¬ Arguments.isOption c.name := by
  cases c <;> decide +kernel

theorem Command.ofName?_name (c : Command) : ofName? c.name = some c := by
  cases c <;> decide

/-- A run whose options are well formed goes on to its command. -/
theorem runOn_words (console : Report.Console) (disk : Disk) (program : String)
    (env : Environment) (flags : List Flag) (c : Command) (rest : List String) (p : Process) :
    runOn console disk program env (flags.flatMap Flag.words ++ c.name :: rest) p
      = enter console disk program env ⟨flags.map Flag.option, c.name :: rest⟩
          (Flag.lastDepth flags) c rest p := by
  have some : (flags.flatMap Flag.words ++ c.name :: rest).isEmpty = false := by simp
  have version := Flag.has_eq_false flags (c.name :: rest) Flag.option_ne_version
  have help := Flag.has_eq_false flags (c.name :: rest) Flag.option_ne_help
  unfold runOn
  rw [some, Flag.read_flatMap_words flags c.not_isOption_name]
  simp only [version, help, Flag.limitOf_eq, c.ofName?_name, Bool.false_eq_true, if_false]

end MiniC.CommandLine
