/-
  MiniC.Proofs.Grammar.Sequence — token lists in a row.

  What has been read without a fault leaves nothing open: the statements end where the list does,
  and so do the blocks. What follows is read as if it stood alone, unless it starts with `else`.
  A list that stops after `else` is read without a fault, too; then the first statement of what
  follows is read as an alternative, and nothing else changes.

  Proved:
  - `exists_findings_append`: what is found in two lists in a row is what is found in the first
    one, and then what is found in the second.
  - `parse_append`: so the errors are those of the second, the declarations are those of the
    first and those of the second whose names are free, and each name of the second that the
    first has taken is one more that is refused.
-/

import Mathlib.Data.List.Basic
import MiniC.Proofs.Grammar.Scoping
import MiniC.Proofs.Grammar.Unfinished

namespace MiniC

/-! ## Reading lists in a row -/

/-- What is read without a fault is a program, or one that ends with an open conditional, and an
`else`. -/
theorem exists_body_of_clean {ts : List Token} {limit : Nat} (clean : faults (findings ts limit) = []) :
    ∃ body : SyntaxTree .blockBody, body.Fits limit 0 ∧
      (ts = body.tokens ∨
        body.EndsOpen ∧ ∃ e : Token, e.isKeyword "else" ∧ ts = body.tokens ++ [e]) := by
  have reads := reads_read (.ofProgram ts limit) .program ts
  by_cases ends : EndsWithElse ts
  · obtain ⟨⟨body⟩, e, rfl, fits, isOpen⟩ :=
      reads.exists_open_tree trivial clean trivial reads.program_rest ends
    exact ⟨body, fits, .inr ⟨isOpen, e, endsWithElse_concat.1 ends, rfl⟩⟩
  · rw [reads.program_rest] at reads
    obtain ⟨⟨body⟩, whole, fits⟩ := (reads.tree_or_cut trivial clean).resolve_right fun cut => ends cut.2
    rw [List.append_nil] at whole
    exact ⟨body, fits, .inl whole.symm⟩

/-- Behind whole statements the program goes on. -/
theorem SyntaxTree.reads_program {site : Site} {ts : List Token} {found : List Finding}
    (apart : ¬ ts.head?.any (·.isKeyword "else")) (later : Reads site .program ts found []) :
    (body : SyntaxTree .blockBody) → body.Fits site.limit site.depth →
    Reads site .program (body.tokens ++ ts) (body.findings ++ found) []
  | .noStatement, _ => later
  | .statements first body, fits => by
    have follows : Phrase.Follows .statement (body.tokens ++ ts) := by
      cases body with
      | noStatement => exact apart
      | statements second body =>
        obtain ⟨t, r, split, start⟩ := exists_cons_of_head?_any second.starts
        simp only [Phrase.Follows, tokens, split]
        exact (Token.startsStatement_stops start).1
    rw [tokens, findings, List.append_assoc, List.append_assoc]
    exact .program_of_statement (head?_append_any first.starts)
      (first.reads site _ fits.1 follows) (reads_program apart later body fits.2)

theorem SyntaxTree.lt_of_endsOpen {limit depth : Nat} {body : SyntaxTree .blockBody}
    (fits : body.Fits limit depth) (isOpen : body.EndsOpen) : depth < limit := by
  cases body with
  | noStatement => exact isOpen.elim
  | statements first others => exact Fits.lt fits.1

theorem findings_nil (limit : Nat) : findings [] limit = [] :=
  (Reads.programEnd _).read_eq.1

/-- Behind an `else` that lacks its statement, the first statement of a program is read as the
alternative, and then the program goes on. -/
theorem Reads.program_open {site : Site} {t : Token} {r : List Token} {found : List Finding}
    (h : Reads site .program (t :: r) found []) {e : Token} (isElse : e.isKeyword "else")
    (room : ¬ site.full) (body : SyntaxTree .blockBody) (fits : body.Fits site.limit site.depth)
    (isOpen : body.EndsOpen) :
    Reads site .program (body.tokens ++ e :: t :: r) (body.findings ++ found) [] := by
  cases h with
  | programMore head later =>
    have other := Reads.alternative_of_statement isElse room (List.cons_ne_nil t r) head
    exact SyntaxTree.reads_program_open other later body fits isOpen

/-- Behind a list that is read without a fault, a list that does not start with `else` is read as
it is alone. What is found in the first list is what some statements hold. -/
theorem exists_findings_append {a : List Token} {limit : Nat}
    (clean : faults (findings a limit) = []) :
    ∃ body : SyntaxTree .blockBody, ∀ b : List Token, ¬ b.head?.any (·.isKeyword "else") →
      findings (a ++ b) limit = body.findings ++ findings b limit := by
  obtain ⟨body, fits, whole⟩ := exists_body_of_clean clean
  refine ⟨body, fun b apart => ?_⟩
  cases b with
  | nil =>
    rw [List.append_nil, findings_nil, List.append_nil]
    rcases whole with rfl | ⟨isOpen, e, isElse, rfl⟩
    · exact (SyntaxTree.findings_eq fits : findings (SyntaxTree.program body).tokens limit = _)
    · have nothing : Reads (.ofProgram (body.tokens ++ [e]) limit) .alternative [e] [] [] :=
        .alternativeStatement isElse (by simp) (by simp) (.statementEnd _)
      have read := SyntaxTree.reads_program_open nothing (.programEnd _) body fits isOpen
      rw [List.append_nil, List.append_nil] at read
      exact read.read_eq.1
  | cons t r =>
    have alone := reads_read (.ofProgram (t :: r) limit) .program (t :: r)
    rw [alone.program_rest] at alone
    have whole' : Reads (.ofProgram (t :: r) limit) .program (a ++ t :: r)
        (body.findings ++ findings (t :: r) limit) [] := by
      rcases whole with rfl | ⟨isOpen, e, isElse, rfl⟩
      · exact SyntaxTree.reads_program apart alone body fits
      · rw [List.append_assoc]
        have room : ¬ (Site.ofProgram (t :: r) limit).full :=
          Site.not_full_of_lt (SyntaxTree.lt_of_endsOpen fits isOpen)
        exact alone.program_open isElse room body fits isOpen
    rw [findings, Site.ofProgram_append a (List.cons_ne_nil t r)]
    exact whole'.read_eq.1

/-! ## What is registered -/

/-- What is declared depends on the labels of the open blocks only, not on their order. -/
theorem map_registered_label {blocks blocks' : List Block}
    (same : blocks.map Block.label = blocks'.map Block.label) (begun begun' : Nat)
    (found : List Finding) :
    (registered blocks begun found).map Variable.declaration
      = (registered blocks' begun' found).map Variable.declaration := by
  induction found generalizing blocks blocks' begun begun' with
  | nil => rfl
  | cons x found ih =>
    cases x with
    | declared type name initial =>
      have scope : (blocks.head?.map Block.label) = (blocks'.head?.map Block.label) := by
        rw [← List.head?_map, ← List.head?_map, same]
      have first : Variable.declaration ⟨blocks.head?, type, name, initial⟩
          = Variable.declaration ⟨blocks'.head?, type, name, initial⟩ := by
        simp only [Variable.declaration, Variable.scope, scope]
      rw [registered, registered, List.map_cons, List.map_cons, first, ih same]
    | opened brace =>
      have opened : (⟨begun, brace⟩ :: blocks : List Block).map Block.label
          = (⟨begun', brace⟩ :: blocks' : List Block).map Block.label := by
        rw [List.map_cons, List.map_cons, same]
        rfl
      exact ih opened (begun + 1) (begun' + 1)
    | closed =>
      have closed : blocks.tail.map Block.label = blocks'.tail.map Block.label := by
        rw [List.map_tail, List.map_tail, same]
      exact ih closed begun begun'
    | fault | descended | ascended => exact ih same begun begun'

/-- Two lists in a row register what they register alone. -/
theorem declarations_append {a b : List Token} {limit : Nat} (clean : (parse a limit).errors = [])
    (apart : ¬ b.head?.any (·.isKeyword "else")) :
    (allVariables (a ++ b) limit).map Variable.declaration
      = (allVariables a limit).map Variable.declaration
        ++ (allVariables b limit).map Variable.declaration := by
  rw [parse_errors] at clean
  obtain ⟨body, read⟩ := exists_findings_append clean
  have alone := read [] (by simp)
  rw [List.append_nil] at alone
  unfold allVariables
  rw [read b apart, alone, body.registered_findings, body.registered_findings, findings_nil,
    registered, List.append_nil, List.map_append]
  exact congrArg _ (map_registered_label rfl _ _ _)

/-! ## Parsing lists in a row -/

/-- Behind a list that is parsed without a syntax error, a list that does not start with `else` is
parsed as it is alone, but for the names that the first list has taken. -/
theorem parse_append {a b : List Token} {limit : Nat} (clean : (parse a limit).errors = [])
    (apart : ¬ b.head?.any (·.isKeyword "else")) :
    (parse (a ++ b) limit).errors = (parse b limit).errors ∧
      (parse (a ++ b) limit).declarations
        = (parse a limit).declarations
          ++ (parse b limit).declarations.filter
              (·.key ∉ (parse a limit).declarations.map Declaration.key) ∧
      (parse (a ++ b) limit).semanticErrors.length
        = (parse a limit).semanticErrors.length + (parse b limit).semanticErrors.length
          + ((parse b limit).declarations.filter
              (·.key ∈ (parse a limit).declarations.map Declaration.key)).length := by
  have errors : (parse (a ++ b) limit).errors = (parse b limit).errors := by
    rw [parse_errors] at clean
    obtain ⟨body, read⟩ := exists_findings_append clean
    rw [parse_errors, parse_errors, read b apart, faults_append, body.faults_findings]
    rfl
  have told := declarations_append clean apart
  obtain ⟨declared, refused⟩ := parse_register (a ++ b) limit
  obtain ⟨declaredA, refusedA⟩ := parse_register a limit
  obtain ⟨declaredB, refusedB⟩ := parse_register b limit
  generalize (allVariables a limit).map Variable.declaration = as at *
  generalize (allVariables b limit).map Variable.declaration = bs at *
  -- Of the names of the second list, those that are first in both lists are the first ones
  -- whose key is free; the others are repeats.
  have kept : firsts Declaration.SameKey as bs
      = (parse b limit).declarations.filter
          (·.key ∉ (parse a limit).declarations.map Declaration.key) := by
    have free := @firsts_filter _ Declaration.SameKey _ as [] bs
    rw [List.append_nil] at free
    rw [free, declaredA, declaredB]
    exact List.filter_congr fun d _ => find?_sameKey_isNone as d
  refine ⟨errors, ?_, ?_⟩
  · rw [declared, told, firsts_append, List.nil_append, ← declaredA, kept]
  · have parts := List.length_eq_length_filter_add
      (l := (parse b limit).declarations)
      fun d => decide (d.key ∈ (parse a limit).declarations.map Declaration.key)
    have all := @length_firsts_add_length_repeats _ Declaration.SameKey _ as bs
    have alone := @length_firsts_add_length_repeats _ Declaration.SameKey _ [] bs
    rw [kept] at all
    rw [← declaredB] at alone
    rw [refused, refusedA, refusedB, told, repeats_append, List.nil_append]
    simp only [List.map_append, List.length_append, List.length_map, ← decide_not] at *
    omega

/-- The first list may stop after `else`; of the names in the second, one is taken. -/
theorem a_name_is_taken_by_the_list_before :
    let a := (tokenize "int a; if (a) \x7b int a; \x7d else").tokens
    let b := (tokenize "\n int a; string b; string b; )").tokens
    (parse a 150).errors = [] ∧ ¬ b.head?.any (·.isKeyword "else") ∧
      (parse (a ++ b) 150).errors = (parse b 150).errors ∧ (parse b 150).errors.length = 2 ∧
      (parse (a ++ b) 150).declarations.map (·.name) = ["a", "a", "b"] ∧
      (parse (a ++ b) 150).semanticErrors.length = 2 := by
  intro a b
  have clean : (parse a 150).errors = [] := by decide +kernel
  have apart : ¬ b.head?.any (·.isKeyword "else") := by decide +kernel
  obtain ⟨errors, declarations, count⟩ := parse_append clean apart
  refine ⟨clean, apart, errors, by decide +kernel, ?_, ?_⟩
  · rw [declarations]
    decide +kernel
  · rw [count]
    decide +kernel

end MiniC
