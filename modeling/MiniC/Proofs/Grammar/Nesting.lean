/-
  MiniC.Proofs.Grammar.Nesting — what the nesting limit permits.

  How deep a program is nested is how many blocks and parentheses stand one inside the other
  (`SyntaxTree.nesting`). The limit is asked about at two places: at each parenthesis, which may
  be the last one that it permits, and at each statement, where blocks up to the limit leave no
  room. So of the blocks that the limit permits the innermost ones must be empty.

  Proved:
  - `SyntaxTree.fits_or_deep`: the tokens of a tree that does not keep to the limit are read with
    a fault that says so.
  - `SyntaxTree.fits_iff`: a tree keeps to the limit if it is nested no deeper, and no statement
    stands inside as many blocks as the limit permits.
  - `parse_not_tooDeep_iff`: so parsing a program reports that it is too deep exactly if one of
    the two fails.
  - `a_statement_in_the_last_block_is_too_deep`: the second may fail alone.
-/

import Mathlib.Order.MinMax
import MiniC.Lexer
import MiniC.Proofs.Grammar.Acceptance
import MiniC.Proofs.Parser.Balance

namespace MiniC

/-! ## Too deep -/

/-- Does the fault say that the nesting is too deep? -/
def SyntaxFault.isTooDeep : SyntaxFault → Bool
  | .tooDeep _ => true
  | _ => false

/-- Something in the phrase was found to be nested too deep. -/
def HasDeep (found : List Finding) : Prop := ∃ e ∈ faults found, e.fault.isTooDeep

@[simp] theorem hasDeep_append {first others : List Finding} :
    HasDeep (first ++ others) ↔ HasDeep first ∨ HasDeep others := by
  simp [HasDeep, or_and_right, exists_or]

@[simp] theorem hasDeep_block {brace : Option Token} {inside : List Finding} :
    HasDeep (Finding.block brace inside) ↔ HasDeep inside := by
  rw [HasDeep, faults_block, HasDeep]

@[simp] theorem hasDeep_group {inside : List Finding} :
    HasDeep (Finding.group inside) ↔ HasDeep inside := by
  rw [HasDeep, faults_group, HasDeep]

theorem hasDeep_fault (t : Token) : HasDeep [.fault ⟨.tooDeep t.lexeme, t.position⟩] :=
  ⟨_, List.mem_cons_self, rfl⟩

/-- Reading the phrase finds something nested too deep. -/
def RunsDeep (site : Site) (p : Phrase) (ts : List Token) : Prop :=
  ∃ found rest, Reads site p ts found rest ∧ HasDeep found

namespace RunsDeep

variable {site : Site} {ts : List Token}

theorem of_full (full : site.full) {wanted : Token → Bool} (start : ts.head?.any wanted) :
    RunsDeep site .statement ts := by
  obtain ⟨t, r, rfl, -⟩ := exists_cons_of_head?_any start
  exact ⟨_, _, .statementDeep full, hasDeep_fault t⟩

/-- A statement has room and fits, or is read with a fault. -/
theorem statement_or {p : Phrase} {fits : Prop} {wanted : Token → Bool} (start : ts.head?.any wanted)
    (lift : ¬ site.full → ∀ {found rest}, Reads site p ts found rest →
      Reads site .statement ts found rest)
    (inner : site.depth < site.limit → fits ∨ RunsDeep site p ts) :
    (site.depth < site.limit ∧ fits) ∨ RunsDeep site .statement ts := by
  by_cases full : site.full
  · exact .inr (of_full full start)
  · have lt := Site.lt_of_not_full full
    rcases inner lt with fits | ⟨found, rest, reads, deep⟩
    · exact .inl ⟨lt, fits⟩
    · exact .inr ⟨found, rest, lift full reads, deep⟩

/-- A program goes on where statements stop, so it finds what they find. -/
theorem program_of_body (h : RunsDeep site .blockBody ts) : RunsDeep site .program ts := by
  obtain ⟨found, rest, reads, deep⟩ := h
  generalize hp : Phrase.blockBody = p at reads
  induction reads with
  | bodyEnd | bodyClose => exact absurd deep (by simp [HasDeep])
  | bodyMore _ first _ _ ih =>
    rcases hasDeep_append.1 deep with deep | deep
    · exact ⟨_, _, .programMore first (reads_read _ _ _), hasDeep_append.2 (.inl deep)⟩
    · obtain ⟨_, _, others, deep⟩ := ih deep rfl
      exact ⟨_, _, .programMore first others, hasDeep_append.2 (.inr deep)⟩
  | _ => cases hp

end RunsDeep

/-- The tokens of a tree either keep to the limit or are read with a fault that says that they do
not. -/
theorem SyntaxTree.fits_or_deep {p : Phrase} (tree : SyntaxTree p) (site : Site) (rest : List Token)
    (room : p.HasRoom site) (follows : p.Follows rest) :
    tree.Fits site.limit site.depth ∨ RunsDeep site p (tree.tokens ++ rest) := by
  -- The first part that does not fit is read with the fault. Those before it fit and are read to
  -- their ends, and what is read after it does not matter.
  induction tree generalizing site rest with
  | program body ih =>
    cases follows
    exact (ih site [] trivial rfl).imp_right RunsDeep.program_of_body
  | noStatement | plain | noAlternative | noOperand | atom => exact .inl trivial
  | statements first others ih ih' =>
    have start : (first.tokens ++ (others.tokens ++ rest)).head?.any Token.startsStatement :=
      head?_append_any first.starts
    have stop := others.follows_statement follows
    rw [tokens, List.append_assoc]
    rcases ih site _ trivial stop with fits | ⟨found, r, reads, deep⟩
    · rcases ih' site rest trivial follows with fits' | ⟨found, r, reads, deep⟩
      · exact .inl ⟨fits, fits'⟩
      · exact .inr ⟨_, _, .body_of_statement start (first.reads site _ fits stop) reads,
          hasDeep_append.2 (.inr deep)⟩
    · exact .inr ⟨_, _, .body_of_statement start reads (reads_read _ _ _),
        hasDeep_append.2 (.inl deep)⟩
  | ofDeclaration inner ih =>
    have start := @head?_append_any _ rest _ inner.starts
    exact RunsDeep.statement_or start (.statement_of_declaration · start) fun _ => ih site rest trivial trivial
  | ofConditional inner ih =>
    have start := @head?_append_any _ rest _ inner.starts
    exact RunsDeep.statement_or start (.statement_of_conditional · start) fun lt => ih site rest lt follows
  | ofBlock inner ih =>
    have start := @head?_append_any _ rest _ inner.starts
    exact RunsDeep.statement_or start (.statement_of_block · start) fun _ => ih site rest trivial trivial
  | ofExpression inner ih =>
    have start := @head?_append_any _ rest _ inner.starts
    exact RunsDeep.statement_or start (.statement_of_expression · start) fun _ => ih site rest trivial trivial
  | initialized type name sign value stop ih =>
    have after := Token.not_isAnyOperator_of_isDelimiter stop.property
    refine (ih site (stop.val :: rest) trivial after).imp_right fun runs => ?_
    obtain ⟨found, r, reads, deep⟩ := runs
    have h := Reads.declarationInitialized
      (r := name.val :: sign.val :: (value.tokens ++ stop.val :: rest)) type.property sign.property reads
    exact ⟨_, _, by simpa [tokens] using h, by simp [deep]⟩
  | conditional word left condition right branch other ih ih' ih'' =>
    have after := Token.not_isAnyOperator_of_isDelimiter right.property
    have whole : (conditional word left condition right branch other).tokens ++ rest = word.val ::
        left.val :: (condition.tokens ++ right.val :: (branch.tokens ++ (other.tokens ++ rest))) := by
      simp [tokens]
    rw [whole]
    rcases ih site (right.val :: (branch.tokens ++ (other.tokens ++ rest))) trivial after with
      fits | ⟨found, r, reads, deep⟩
    · have first := condition.reads site (right.val :: (branch.tokens ++ (other.tokens ++ rest))) fits after
      rcases ih' site (other.tokens ++ rest) trivial trivial with fits' | ⟨found, r, reads, deep⟩
      · have second := branch.reads site (other.tokens ++ rest) fits' trivial
        rcases ih'' site rest room follows with fits'' | ⟨found, r, reads, deep⟩
        · exact .inl ⟨fits, fits', fits''⟩
        · exact .inr ⟨_, _, .conditional first second reads, by simp [deep]⟩
      · exact .inr ⟨_, _, .conditional first reads (reads_read _ _ _), by simp [deep]⟩
    · exact .inr ⟨_, _, .conditional reads (reads_read _ _ _) (reads_read _ _ _), by simp [deep]⟩
  | elseBlock word inner ih =>
    have start : (inner.tokens ++ rest).head?.any (·.isDelimiter "\x7b") :=
      head?_append_any inner.starts
    obtain ⟨t, r, hts, brace⟩ := exists_cons_of_head?_any start
    refine (ih site rest trivial trivial).imp_right fun runs => ?_
    obtain ⟨found, r, reads, deep⟩ := runs
    rw [hts] at reads
    rw [tokens, List.cons_append, hts]
    exact ⟨_, _, .alternativeBlock word.property (Token.not_isKeyword_of_isDelimiter brace) brace reads,
      deep⟩
  | elseStatement word inner ih =>
    have start : (inner.tokens ++ rest).head?.any Token.startsStatement :=
      head?_append_any inner.starts
    obtain ⟨t, r, hts, -⟩ := exists_cons_of_head?_any start
    have more : inner.tokens ++ rest ≠ [] := by rw [hts]; exact List.cons_ne_nil t r
    refine (ih site rest trivial follows).imp_right fun runs => ?_
    obtain ⟨found, r, reads, deep⟩ := runs
    exact ⟨_, _, .alternative_of_statement word.property (Site.not_full_of_lt room) more reads, deep⟩
  | block left body right ih =>
    refine (ih site.deeper (right.val :: rest) trivial right.property).imp_right fun runs => ?_
    obtain ⟨found, r, reads, deep⟩ := runs
    have h : Reads site .block (left.val :: (body.tokens ++ right.val :: rest)) _ _ := .block reads
    exact ⟨_, _, by simpa [tokens] using h, by simp [deep]⟩
  | expressionStatement inner stop ih =>
    have after := Token.not_isAnyOperator_of_isDelimiter stop.property
    refine (ih site (stop.val :: rest) trivial after).imp_right fun runs => ?_
    obtain ⟨found, r, reads, deep⟩ := runs
    exact ⟨_, _, by simpa [tokens] using Reads.expressionStatement reads, by simp [deep]⟩
  | expression first others ih ih' =>
    rw [tokens, List.append_assoc]
    rcases ih site (others.tokens ++ rest) trivial trivial with fits | ⟨found, r, reads, deep⟩
    · rcases ih' site rest trivial follows with fits' | ⟨found, r, reads, deep⟩
      · exact .inl ⟨fits, fits'⟩
      · exact .inr ⟨_, _, .expression (first.reads site _ fits trivial) reads,
          hasDeep_append.2 (.inr deep)⟩
    · exact .inr ⟨_, _, .expression reads (reads_read _ _ _), hasDeep_append.2 (.inl deep)⟩
  | operands sign first others ih ih' =>
    rw [tokens, List.cons_append, List.append_assoc]
    rcases ih site (others.tokens ++ rest) trivial trivial with fits | ⟨found, r, reads, deep⟩
    · rcases ih' site rest trivial follows with fits' | ⟨found, r, reads, deep⟩
      · exact .inl ⟨fits, fits'⟩
      · exact .inr ⟨_, _, .operandsMore sign.property (first.reads site _ fits trivial) reads,
          hasDeep_append.2 (.inr deep)⟩
    · exact .inr ⟨_, _, .operandsMore sign.property reads (reads_read _ _ _),
        hasDeep_append.2 (.inl deep)⟩
  | group left inner right ih =>
    have atom := Token.not_isAtom_of_isDelimiter left.property
    have after := Token.not_isAnyOperator_of_isDelimiter right.property
    by_cases full : site.full
    · exact .inr ⟨_, _, .primaryDeep atom left.property full, hasDeep_fault _⟩
    · rcases ih site.deeper (right.val :: rest) trivial after with fits | ⟨found, r, reads, deep⟩
      · exact .inl ⟨Site.lt_of_not_full full, fits⟩
      · have h := Reads.primaryGroup atom left.property full reads
        exact .inr ⟨_, _, by simpa [tokens] using h, by simp [deep]⟩

/-! ## How deep a tree is -/

namespace SyntaxTree

/-- How many blocks and parentheses stand one inside the other. The parentheses of a condition
are not counted. -/
def nesting : {p : Phrase} → SyntaxTree p → Nat
  | _, program body => body.nesting
  | _, noStatement => 0
  | _, statements first others => max first.nesting others.nesting
  | _, ofDeclaration inner => inner.nesting
  | _, ofConditional inner => inner.nesting
  | _, ofBlock inner => inner.nesting
  | _, ofExpression inner => inner.nesting
  | _, plain _ _ _ => 0
  | _, initialized _ _ _ value _ => value.nesting
  | _, conditional _ _ condition _ branch other =>
    max condition.nesting (max branch.nesting other.nesting)
  | _, noAlternative => 0
  | _, elseBlock _ inner => inner.nesting
  | _, elseStatement _ inner => inner.nesting
  | _, block _ body _ => body.nesting + 1
  | _, expressionStatement inner _ => inner.nesting
  | _, expression first others => max first.nesting others.nesting
  | _, noOperand => 0
  | _, operands _ first others => max first.nesting others.nesting
  | _, atom _ => 0
  | _, group _ inner _ => inner.nesting + 1

/-- A statement stands inside `n` blocks and parentheses of the tree. -/
def HasStatementIn : (n : Nat) → {p : Phrase} → SyntaxTree p → Prop
  | n, _, program body => body.HasStatementIn n
  | _, _, noStatement => False
  | n, _, statements first others => first.HasStatementIn n ∨ others.HasStatementIn n
  | n, _, ofDeclaration inner => n = 0 ∨ inner.HasStatementIn n
  | n, _, ofConditional inner => n = 0 ∨ inner.HasStatementIn n
  | n, _, ofBlock inner => n = 0 ∨ inner.HasStatementIn n
  | n, _, ofExpression inner => n = 0 ∨ inner.HasStatementIn n
  | _, _, plain _ _ _ => False
  | n, _, initialized _ _ _ value _ => value.HasStatementIn n
  | n, _, conditional _ _ condition _ branch other =>
    condition.HasStatementIn n ∨ branch.HasStatementIn n ∨ other.HasStatementIn n
  | _, _, noAlternative => False
  | n, _, elseBlock _ inner => inner.HasStatementIn n
  | n, _, elseStatement _ inner => inner.HasStatementIn n
  | n, _, block _ body _ => ∃ m, n = m + 1 ∧ body.HasStatementIn m
  | n, _, expressionStatement inner _ => inner.HasStatementIn n
  | n, _, expression first others => first.HasStatementIn n ∨ others.HasStatementIn n
  | _, _, noOperand => False
  | n, _, operands _ first others => first.HasStatementIn n ∨ others.HasStatementIn n
  | _, _, atom _ => False
  | n, _, group _ inner _ => ∃ m, n = m + 1 ∧ inner.HasStatementIn m

theorem HasStatementIn.le_nesting {p : Phrase} {tree : SyntaxTree p} {n : Nat}
    (h : tree.HasStatementIn n) : n ≤ tree.nesting := by
  induction tree generalizing n with
  | program _ ih | initialized _ _ _ _ _ ih | elseBlock _ _ ih | elseStatement _ _ ih
  | expressionStatement _ _ ih => exact ih h
  | noStatement | plain | noAlternative | noOperand | atom => exact h.elim
  | statements _ _ ih ih' | expression _ _ ih ih' | operands _ _ _ ih ih' =>
    exact h.elim (fun h => le_max_of_le_left (ih h)) (fun h => le_max_of_le_right (ih' h))
  | ofDeclaration _ ih | ofConditional _ ih | ofBlock _ ih | ofExpression _ ih =>
    rcases h with rfl | h
    · exact Nat.zero_le _
    · exact ih h
  | conditional _ _ _ _ _ _ ih ih' ih'' =>
    rcases h with h | h | h
    · exact le_max_of_le_left (ih h)
    · exact le_max_of_le_right (le_max_of_le_left (ih' h))
    · exact le_max_of_le_right (le_max_of_le_right (ih'' h))
  | block _ _ _ ih | group _ _ _ ih =>
    obtain ⟨m, rfl, h⟩ := h
    exact Nat.succ_le_succ (ih h)

end SyntaxTree

/-- Inside `depth` blocks and parentheses there is room for as many more levels, and for
statements inside so many of them. -/
def Room (limit depth levels : Nat) (inside : Nat → Prop) : Prop :=
  (levels = 0 ∨ depth + levels ≤ limit) ∧ ∀ n, inside n → depth + n < limit

namespace Room

variable {limit d m n : Nat} {P Q : Nat → Prop}

theorem none : Room limit d 0 fun _ => False := ⟨.inl rfl, fun _ => False.elim⟩

theorem pair_iff :
    (Room limit d (max m n) fun k => P k ∨ Q k) ↔ Room limit d m P ∧ Room limit d n Q := by
  simp only [Room, or_imp, forall_and]
  have levels : (max m n = 0 ∨ d + max m n ≤ limit) ↔
      (m = 0 ∨ d + m ≤ limit) ∧ (n = 0 ∨ d + n ≤ limit) := by omega
  rw [levels]
  exact and_and_and_comm

theorem statement_iff : (Room limit d m fun k => k = 0 ∨ P k) ↔ d < limit ∧ Room limit d m P := by
  simp only [Room, or_imp, forall_and, forall_eq, Nat.add_zero]
  exact and_left_comm

theorem level_iff :
    (Room limit d (m + 1) fun k => ∃ i, k = i + 1 ∧ P i) ↔ d < limit ∧ Room limit (d + 1) m P := by
  have levels : (m + 1 = 0 ∨ d + (m + 1) ≤ limit) ↔ d < limit ∧ (m = 0 ∨ d + 1 + m ≤ limit) := by
    omega
  have inside : (∀ k, (∃ i, k = i + 1 ∧ P i) → d + k < limit) ↔ ∀ i, P i → d + 1 + i < limit := by
    constructor
    · intro h i mem
      have lt := h (i + 1) ⟨i, rfl, mem⟩
      omega
    · rintro h k ⟨i, rfl, mem⟩
      have lt := h i mem
      omega
  rw [Room, Room, levels, inside, and_assoc]

end Room

/-- A tree keeps to the limit exactly if there is room for its levels and its statements. A block
does not ask for room itself: the statement around it does. -/
theorem SyntaxTree.fits_iff {p : Phrase} (tree : SyntaxTree p) {limit d : Nat}
    (room : p.BeginsBlock → d < limit) :
    tree.Fits limit d ↔ Room limit d tree.nesting tree.HasStatementIn := by
  induction tree generalizing d with
  | program _ ih | initialized _ _ _ _ _ ih | elseStatement _ _ ih | expressionStatement _ _ ih =>
    exact ih nofun
  | elseBlock _ _ ih => exact ih fun _ => room trivial
  | noStatement | plain | noAlternative | noOperand | atom => exact iff_of_true trivial Room.none
  | statements _ _ ih ih' | expression _ _ ih ih' | operands _ _ _ ih ih' =>
    exact (and_congr (ih nofun) (ih' nofun)).trans Room.pair_iff.symm
  | ofDeclaration _ ih | ofConditional _ ih | ofBlock _ ih | ofExpression _ ih =>
    exact (and_congr_right fun lt => ih fun _ => lt).trans Room.statement_iff.symm
  | conditional _ _ _ _ _ _ ih ih' ih'' =>
    have lt := room trivial
    have others := (and_congr (ih' fun _ => lt) (ih'' fun _ => lt)).trans Room.pair_iff.symm
    exact (and_congr (ih nofun) others).trans Room.pair_iff.symm
  | block _ _ _ ih => exact (ih nofun).trans ((and_iff_right (room trivial)).symm.trans Room.level_iff.symm)
  | group _ _ _ ih => exact (and_congr_right fun _ => ih nofun).trans Room.level_iff.symm

/-- Parsing a program reports that it is nested too deep, unless it is nested no deeper than the
limit and no statement stands inside as many blocks as the limit permits. -/
theorem parse_not_tooDeep_iff (tree : SyntaxTree .program) (limit : Nat) :
    (∀ e ∈ (parse tree.tokens limit).errors, ¬ e.fault.isTooDeep) ↔
      tree.nesting ≤ limit ∧ ¬ tree.HasStatementIn limit := by
  have fits : tree.Fits limit 0 ↔ tree.nesting ≤ limit ∧ ¬ tree.HasStatementIn limit := by
    rw [tree.fits_iff nofun]
    constructor
    · intro room
      refine ⟨by have nested := room.1; omega, fun inside => ?_⟩
      have lt := room.2 limit inside
      omega
    · intro h
      refine ⟨by omega, fun n inside => ?_⟩
      have le := inside.le_nesting
      have ne : n ≠ limit := fun same => h.2 (same ▸ inside)
      omega
  rw [← fits, parse_errors]
  constructor
  · intro none
    refine (tree.fits_or_deep (.ofProgram tree.tokens limit) [] trivial rfl).resolve_right fun deep => ?_
    obtain ⟨found, rest, reads, e, mem, deep⟩ := deep
    rw [List.append_nil] at reads
    rw [← reads.read_eq.1] at mem
    exact none e mem deep
  · intro fits e mem
    rw [SyntaxTree.findings_eq fits, tree.faults_findings] at mem
    exact absurd mem List.not_mem_nil

/-- One block is permitted, and a statement in it is too deep. -/
theorem a_statement_in_the_last_block_is_too_deep :
    ∃ tree : SyntaxTree .program, tree.tokens = (tokenize "\x7b a; \x7d").tokens ∧ tree.nesting ≤ 1 ∧
      ∃ e ∈ (parse tree.tokens 1).errors, e.fault.isTooDeep := by
  let left : Terminal.mark "\x7b" := ⟨⟨.delimiter, "\x7b", ⟨1, 1⟩⟩, by decide⟩
  let name : Terminal fun t => t.isIdentifier || t.isLiteral := ⟨⟨.identifier, "a", ⟨1, 3⟩⟩, by decide⟩
  let stop : Terminal.mark ";" := ⟨⟨.delimiter, ";", ⟨1, 4⟩⟩, by decide⟩
  let right : Terminal.mark "\x7d" := ⟨⟨.delimiter, "\x7d", ⟨1, 6⟩⟩, by decide⟩
  let value : SyntaxTree .expression := .expression (.atom name) .noOperand
  let inner : SyntaxTree .blockBody := .statements (.ofExpression (.expressionStatement value stop)) .noStatement
  refine ⟨.program (.statements (.ofBlock (.block left inner right)) .noStatement), ?_, ?_, ?_⟩
  · decide +kernel
  · decide
  · decide +kernel

end MiniC
