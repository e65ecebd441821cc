/-
  MiniC.Proofs.Analysis — what an analysis is made of.

  A text without lexical errors is parsed, and its analysis is made of its tokens and of what
  parsing them gives (`analyze_clean`). The limit is the one in force for what was asked
  (`analyzeLogged_of_limit`); where that is refused, there is no analysis
  (`analyzeLogged_of_fault`). A text with lexical errors is not parsed, and no limit matters
  (`analyzeLogged_of_errors`). Texts that are read into the same have the same analysis
  (`analyzeLogged_congr`).
-/

import MiniC.Analysis
import MiniC.Proofs.Parser.Scoping

namespace MiniC

/-- What a parser finds does not depend on what was reported before it. -/
theorem result_parse_start (tokens : List Token) (limit : Nat) (events : List Log.Event) :
    ((Parser.start tokens limit events).parse).result = parse tokens limit := by
  have register (earlier : List Log.Event) :=
    @Parser.record_register (.start tokens limit earlier) [] rfl 0 (findings tokens limit)
  show ((Parser.start tokens limit events).record (findings tokens limit)).result
    = ((Parser.start tokens limit []).record (findings tokens limit)).result
  unfold Parser.result
  rw [register, register, Parser.record_errors, Parser.record_errors]
  rfl

theorem analyze_clean {source : String} (clean : (tokenize source).errors = []) (limit : Nat) :
    analyze source limit
      = .ofParsed (tokenize source) (parse (tokenize source).tokens limit) :=
  if_pos (List.isEmpty_iff.2 clean)

/-- What is found in a text, and what is reported of it, is told by its tokens and its errors. -/
theorem analyzeLogged_congr {source other : String} (same : tokenize source = tokenize other)
    (asked : Int) : analyzeLogged source asked = analyzeLogged other asked := by
  have events (text : String) : (lex text).events
      = (tokenize text).errors.map (fun e => Log.Event.lexError e.position e.fault.message)
        ++ [.lexed (tokenize text).tokens.length (tokenize text).errors.length
          (tokenize text).symbols.length] := by
    have length : (tokenize text).symbols.length = (lex text).tally.length :=
      List.length_mergeSort (lex text).tally
    rw [length]
    rfl
  have result : (lex source).result = (lex other).result := same
  simp only [analyzeLogged, events, same, result]

theorem exists_limitFor {asked : Int} (positive : 1 ≤ asked) :
    ∃ limit events, limitFor asked = .ok (limit, events) := by
  have notBelow : ¬ asked < 1 := by omega
  unfold limitFor
  rw [if_neg notBelow]
  by_cases le : asked ≤ deepestNesting
  · exact ⟨_, _, if_pos le⟩
  · exact ⟨_, _, if_neg le⟩

/-- A text without lexical errors is analyzed under the limit in force. -/
theorem analyzeLogged_of_limit {source : String} (clean : (tokenize source).errors = [])
    {asked : Int} {limit : Nat} {events : List Log.Event}
    (inForce : limitFor asked = .ok (limit, events)) :
    ∃ log, analyzeLogged source asked = .ok (analyze source limit, log) := by
  have empty : (lex source).result.errors.isEmpty := List.isEmpty_iff.2 clean
  have parsed := result_parse_start (lex source).result.tokens limit events
  simp only [analyzeLogged, Parser.ofTokens, if_pos empty, inForce, analyze_clean clean]
  exact ⟨_, congrArg (fun parsed => Except.ok (Analysis.ofParsed (tokenize source) parsed, _)) parsed⟩

/-- A text with lexical errors is analyzed whatever limit is asked for. -/
theorem analyzeLogged_of_errors {source : String} (faulty : (tokenize source).errors ≠ [])
    (asked : Int) (limit : Nat) :
    ∃ log, analyzeLogged source asked = .ok (analyze source limit, log) := by
  have some : ¬ (tokenize source).errors.isEmpty := fun empty => faulty (List.isEmpty_iff.1 empty)
  have some' : ¬ (lex source).result.errors.isEmpty := some
  unfold analyzeLogged analyze
  rw [if_neg some, if_neg some']
  exact ⟨_, rfl⟩

/-- Under a limit of at least one every text is analyzed. -/
theorem exists_analysis (source : String) {asked : Int} (positive : 1 ≤ asked) :
    ∃ limit log, analyzeLogged source asked = .ok (analyze source limit, log) := by
  obtain ⟨limit, events, inForce⟩ := exists_limitFor positive
  by_cases clean : (tokenize source).errors = []
  · exact ⟨limit, analyzeLogged_of_limit clean inForce⟩
  · exact ⟨limit, analyzeLogged_of_errors clean asked limit⟩

/-- A text without lexical errors is refused where the limit is. -/
theorem analyzeLogged_of_fault {source : String} (clean : (tokenize source).errors = [])
    {asked : Int} {fault : LimitFault} (refused : limitFor asked = .error fault) :
    analyzeLogged source asked = .error fault := by
  have empty : (lex source).result.errors.isEmpty := List.isEmpty_iff.2 clean
  simp only [analyzeLogged, Parser.ofTokens, if_pos empty, refused]
  rfl

end MiniC
