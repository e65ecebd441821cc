/-
  MiniC.Proofs.Grammar.Unfinished — input that stops right after `else`.

  No program ends with `else`: a block or a statement has to stand behind it. But a statement
  is read as nothing at the end of the input, and after `else` nothing is called for that
  would note the missing one.

  Proved:
  - `SyntaxTree.not_endsWithElse`: the tokens of a tree never end with `else`.
  - `parse_else_errors_eq_nil_iff`: so an input that stops after `else` is no program, and yet
    no syntax error is reported in it exactly if the tokens before that `else` are a program
    that ends with a conditional which has no alternative yet. `if (a) {} else` is the
    shortest one (`an_else_without_a_statement_is_accepted`).
-/

import MiniC.Lexer
import MiniC.Proofs.Grammar.Acceptance

namespace MiniC

/-! ## The last token of a tree -/

theorem endsWithElse_concat {ts : List Token} {t : Token} :
    EndsWithElse (ts ++ [t]) ↔ t.isKeyword "else" := by
  simp [EndsWithElse]

theorem endsWithElse_cons {t : Token} {ts : List Token} (h : ts ≠ []) :
    EndsWithElse (t :: ts) ↔ EndsWithElse ts := by
  unfold EndsWithElse
  rw [List.getLast?_cons_of_ne_nil h]

theorem endsWithElse_append {front ts : List Token} (h : ts ≠ []) :
    EndsWithElse (front ++ ts) ↔ EndsWithElse ts := by
  obtain ⟨t, last⟩ := Option.ne_none_iff_exists'.1 fun none => h (List.getLast?_eq_none_iff.1 none)
  unfold EndsWithElse
  rw [List.getLast?_append, last, Option.some_or]

theorem EndsWithElse.of_append {front ts : List Token} (h : EndsWithElse (front ++ ts)) :
    EndsWithElse front ∨ EndsWithElse ts := by
  by_cases empty : ts = []
  · rw [empty, List.append_nil] at h
    exact .inl h
  · exact .inr ((endsWithElse_append empty).1 h)

theorem not_endsWithElse_mark (ts : List Token) {mark : String} (stop : Terminal.mark mark) :
    ¬ EndsWithElse (ts ++ [stop.val]) := by
  rw [endsWithElse_concat]
  exact Token.not_isKeyword_of_isDelimiter stop.property

namespace SyntaxTree

/-- The tokens of a tree never end with `else`. -/
theorem not_endsWithElse {p : Phrase} (tree : SyntaxTree p) : ¬ EndsWithElse tree.tokens := by
  induction tree with
  | program body ih => exact ih
  | ofDeclaration inner ih | ofConditional inner ih | ofBlock inner ih | ofExpression inner ih => exact ih
  | noStatement | noAlternative | noOperand => exact Bool.false_ne_true
  | statements first others ih ih' | expression first others ih ih' =>
    intro h
    exact h.of_append.elim ih ih'
  | plain type name stop => exact not_endsWithElse_mark [type.val, name.val] stop
  | initialized type name sign value stop =>
    exact not_endsWithElse_mark (type.val :: name.val :: sign.val :: value.tokens) stop
  | conditional word left condition right branch other _ ih ih' =>
    obtain ⟨t, r, start, -⟩ := exists_cons_of_head?_any branch.starts
    have more : branch.tokens ++ other.tokens ≠ [] := by simp [start]
    rw [tokens, ← List.cons_append, ← List.cons_append, List.append_cons, endsWithElse_append more]
    intro h
    exact h.of_append.elim ih ih'
  | elseBlock word inner ih | elseStatement word inner ih =>
    obtain ⟨t, r, start, -⟩ := exists_cons_of_head?_any inner.starts
    have more : inner.tokens ≠ [] := by simp [start]
    rwa [tokens, endsWithElse_cons more]
  | block left body right => exact not_endsWithElse_mark (left.val :: body.tokens) right
  | expressionStatement inner stop => exact not_endsWithElse_mark inner.tokens stop
  | operands sign first others ih ih' =>
    obtain ⟨t, r, start, -⟩ := exists_cons_of_head?_any first.starts
    have more : first.tokens ++ others.tokens ≠ [] := by simp [start]
    rw [tokens, endsWithElse_cons more]
    intro h
    exact h.of_append.elim ih ih'
  | atom t =>
    have start : t.val.startsExpression := Bool.or_eq_true_iff.mpr (.inl t.property)
    exact Token.not_isKeyword_of_startsExpression start (by decide)
  | group left inner right => exact not_endsWithElse_mark (left.val :: inner.tokens) right

/-- The tree ends with a conditional that has no alternative. -/
def EndsOpen : {p : Phrase} → SyntaxTree p → Prop
  | _, program body => body.EndsOpen
  | _, statements first others => others.EndsOpen ∨ others.tokens = [] ∧ first.EndsOpen
  | _, ofConditional inner => inner.EndsOpen
  | _, conditional _ _ _ _ _ other => other.EndsOpen
  | _, noAlternative => True
  | _, elseStatement _ inner => inner.EndsOpen
  | _, _ => False

end SyntaxTree

/-- What ends with `else`, ends so behind every tree. -/
theorem SyntaxTree.endsWithElse_after {p : Phrase} {tree : SyntaxTree p} {ts : List Token}
    (h : EndsWithElse (tree.tokens ++ ts)) : EndsWithElse ts :=
  h.of_append.resolve_left tree.not_endsWithElse

theorem SyntaxTree.not_endsWithElse_of_whole {p : Phrase} {tree : SyntaxTree p} {ts rest : List Token}
    (whole : tree.tokens ++ rest = ts) (all : rest = []) : ¬ EndsWithElse ts := by
  rw [← whole, all, List.append_nil]
  exact tree.not_endsWithElse

/-! ## Reading up to a last `else` -/

/-- Is it one of the phrases that may end with a conditional? -/
def Phrase.EndsWithStatement : Phrase → Prop
  | .program | .statement | .conditional | .alternative => True
  | _ => False

/-- What is read to the end without a fault, up to a last `else`, is a tree that ends with an
open conditional, and the `else`. -/
theorem Reads.exists_open_tree {site : Site} {p : Phrase} {ts rest : List Token}
    {found : List Finding} (h : Reads site p ts found rest) (room : p.HasRoom site)
    (clean : faults found = []) (kind : p.EndsWithStatement) (all : rest = [])
    (ends : EndsWithElse ts) :
    ∃ (tree : SyntaxTree p) (word : Token), tree.tokens ++ [word] = ts ∧
      tree.Fits site.limit site.depth ∧ tree.EndsOpen := by
  -- The last `else` stands in the last part; the parts before it are trees. So is a last part
  -- that cannot be cut short, and no tree ends with `else`.
  induction h with
  | programEnd | statementEnd | alternativeEnd => exact absurd ends Bool.false_ne_true
  | statementDeep => cases clean
  | alternativeNone => cases all
  | @programMore site t r first others ts₁ ts₂ head _ ih ih' =>
    simp only [faults_append, List.append_eq_nil_iff] at clean
    by_cases last : ts₁ = []
    · obtain ⟨tree, word, split, fits, isOpen⟩ := ih trivial clean.1 trivial last ends
      exact ⟨.program (.statements tree .noStatement), word, by simpa [SyntaxTree.tokens] using split,
        ⟨fits, trivial⟩, .inr ⟨rfl, isOpen⟩⟩
    · obtain ⟨tree, split, fits⟩ := (head.tree_or_cut trivial clean.1).resolve_right fun cut => last cut.1
      rw [← split] at ends
      obtain ⟨⟨body⟩, word, rfl, fits', isOpen⟩ :=
        ih' trivial clean.2 trivial all (SyntaxTree.endsWithElse_after ends)
      exact ⟨.program (.statements tree body), word, by rw [← split]; exact List.append_assoc ..,
        ⟨fits, fits'⟩, .inl isOpen⟩
  | statementDeclaration _ _ inner _ | statementBlock _ _ _ _ inner _
  | statementExpression _ _ _ _ inner _ =>
    obtain ⟨tree, whole, -⟩ := (inner.tree_or_cut trivial clean).resolve_right fun cut => cut.2
    exact absurd ends (SyntaxTree.not_endsWithElse_of_whole whole all)
  | statementConditional full _ _ _ ih =>
    have lt := Site.lt_of_not_full full
    obtain ⟨tree, word, split, fits, isOpen⟩ := ih lt clean trivial all ends
    exact ⟨.ofConditional tree, word, split, ⟨lt, fits⟩, isOpen⟩
  | @conditional site ts condition ts₁ branch ts₂ other ts₃ inner block _ _ _ ih =>
    simp only [faults_append, List.append_eq_nil_iff, faults_expect_eq_nil] at clean
    obtain ⟨⟨⟨⟨⟨word, left⟩, clean⟩, right⟩, clean'⟩, clean''⟩ := clean
    obtain ⟨w, ts, rfl, word⟩ := exists_cons_of_head?_any word
    obtain ⟨l, ts, rfl, left⟩ := exists_cons_of_head?_any left
    obtain ⟨r, ts₁, rfl, right⟩ := exists_cons_of_head?_any right
    obtain ⟨condition, rfl, fits⟩ :=
      (inner.tree_or_cut trivial clean).resolve_right fun cut => List.cons_ne_nil _ _ cut.1
    obtain ⟨branch, rfl, fits'⟩ := (block.tree_or_cut trivial clean').resolve_right fun cut => cut.2
    have front : w :: l :: (condition.tokens ++ r :: (branch.tokens ++ ts₂))
        = (w :: l :: condition.tokens ++ [r]) ++ (branch.tokens ++ ts₂) := by simp
    obtain ⟨b, bs, start, -⟩ := exists_cons_of_head?_any branch.starts
    rw [front, endsWithElse_append (by simp [start])] at ends
    obtain ⟨other, e, rfl, fits'', isOpen⟩ :=
      ih room clean'' trivial all (SyntaxTree.endsWithElse_after ends)
    exact ⟨.conditional ⟨w, word⟩ ⟨l, left⟩ condition ⟨r, right⟩ branch other, e,
      by simp [SyntaxTree.tokens], ⟨fits, fits', fits''⟩, isOpen⟩
  | @alternativeConditional site t r found ts₁ word word' _ ih =>
    obtain ⟨i, r, rfl, -⟩ := exists_cons_of_head?_any word'
    rw [endsWithElse_cons (List.cons_ne_nil i r)] at ends
    obtain ⟨tree, e, split, fits, isOpen⟩ := ih room clean trivial all ends
    exact ⟨.elseStatement ⟨t, word⟩ (.ofConditional tree), e, congrArg (t :: ·) split,
      ⟨room, fits⟩, isOpen⟩
  | @alternativeBlock site t r found ts₁ _ _ brace inner _ =>
    obtain ⟨b, r, rfl, -⟩ := exists_cons_of_head?_any brace
    rw [endsWithElse_cons (List.cons_ne_nil b r)] at ends
    obtain ⟨tree, whole, -⟩ := (inner.tree_or_cut trivial clean).resolve_right fun cut => cut.2
    exact absurd ends (SyntaxTree.not_endsWithElse_of_whole whole all)
  | @alternativeStatement site t r found ts₁ word _ _ _ ih =>
    by_cases last : r = []
    · subst last
      exact ⟨.noAlternative, t, rfl, trivial, trivial⟩
    · rw [endsWithElse_cons last] at ends
      obtain ⟨tree, e, split, fits, isOpen⟩ := ih trivial clean trivial all ends
      exact ⟨.elseStatement ⟨t, word⟩ tree, e, congrArg (t :: ·) split, fits, isOpen⟩
  | _ => exact kind.elim

theorem SyntaxTree.follows_of_endsOpen {others : SyntaxTree .blockBody} (h : others.EndsOpen)
    (rest : List Token) : Phrase.Follows .statement (others.tokens ++ rest) := by
  cases others with
  | noStatement => exact h.elim
  | statements first later =>
    have start : ((statements first later).tokens ++ rest).head?.any Token.startsStatement :=
      head?_append_any (head?_append_any first.starts)
    obtain ⟨t, r, hts, start⟩ := exists_cons_of_head?_any start
    rw [hts]
    exact (Token.startsStatement_stops start).1

/-- Is it one of the phrases that end with an alternative, if they end with a conditional? -/
def Phrase.EndsWithAlternative : Phrase → Prop
  | .statement | .conditional | .alternative => True
  | _ => False

/-- Behind a tree that ends with an open conditional, what follows is read as its alternative. -/
theorem SyntaxTree.reads_alternative {p : Phrase} (tree : SyntaxTree p) (kind : p.EndsWithAlternative)
    {site : Site} {e : Token} {ts rest : List Token} {found : List Finding}
    (more : Reads site .alternative (e :: ts) found rest)
    (fits : tree.Fits site.limit site.depth) (isOpen : tree.EndsOpen) :
    Reads site p (tree.tokens ++ e :: ts) (tree.findings ++ found) rest := by
  induction tree with
  | ofConditional inner ih =>
    have room := Site.not_full_of_lt fits.1
    have inside := ih trivial fits.2 isOpen
    exact .statement_of_conditional room (head?_append_any inner.starts) inside
  | conditional word left condition right branch other _ _ ih =>
    have last := ih trivial fits.2.2 isOpen
    have block := branch.reads site (other.tokens ++ e :: ts) fits.2.1 trivial
    have inner := condition.reads site (right.val :: (branch.tokens ++ (other.tokens ++ e :: ts)))
      fits.1 (Token.not_isAnyOperator_of_isDelimiter right.property)
    have all : Reads site .conditional (word.val :: left.val :: _) _ rest :=
      .conditional inner block last
    rw [Reads.expect_cons word.property, List.tail_cons, Reads.expect_cons left.property,
      Reads.expect_cons right.property] at all
    simpa [tokens, findings] using all
  | noAlternative => exact more
  | elseStatement word inner ih =>
    have room := Site.not_full_of_lt (Fits.lt fits)
    have behind : inner.tokens ++ e :: ts ≠ [] :=
      List.append_ne_nil_of_right_ne_nil _ (List.cons_ne_nil e ts)
    exact .alternative_of_statement word.property room behind (ih trivial fits isOpen)
  | program | statements => exact kind.elim
  | _ => exact isOpen.elim

/-- Where a statement starts, a program goes on with it. -/
theorem Reads.program_of_statement {site : Site} {ts rest : List Token}
    {first others : List Finding} (h : ts.head?.any Token.startsStatement)
    (head : Reads site .statement ts first rest) (tail : Reads site .program rest others []) :
    Reads site .program ts (first ++ others) [] := by
  obtain ⟨t, r, rfl, -⟩ := exists_cons_of_head?_any h
  exact .programMore head tail

/-- Behind statements that end with an open conditional, what follows is read as its alternative,
and then the program goes on. -/
theorem SyntaxTree.reads_program_open {site : Site} {e : Token} {ts rest : List Token}
    {found others : List Finding} (more : Reads site .alternative (e :: ts) found rest)
    (later : Reads site .program rest others []) : (body : SyntaxTree .blockBody) →
    body.Fits site.limit site.depth → body.EndsOpen →
    Reads site .program (body.tokens ++ e :: ts) (body.findings ++ (found ++ others)) []
  | .noStatement, _, isOpen => isOpen.elim
  | .statements first body, fits, isOpen => by
    have start : (first.tokens ++ (body.tokens ++ e :: ts)).head?.any Token.startsStatement :=
      head?_append_any first.starts
    rw [tokens, findings, List.append_assoc, List.append_assoc]
    rcases isOpen with isOpen | ⟨none, isOpen⟩
    · have behind := reads_program_open more later body fits.2 isOpen
      have head := first.reads site _ fits.1 (follows_of_endsOpen isOpen (e :: ts))
      exact .program_of_statement start head behind
    · cases body with
      | noStatement =>
        have head := first.reads_alternative trivial more fits.1 isOpen
        have whole := Reads.program_of_statement (head?_append_any first.starts) head later
        rwa [List.append_assoc] at whole
      | statements second body =>
        obtain ⟨t, r, start, -⟩ := exists_cons_of_head?_any second.starts
        simp [tokens, start] at none

/-- The tokens of a program that ends with an open conditional, and an `else`, are read to the end
without a fault. -/
theorem SyntaxTree.reads_open (tree : SyntaxTree .program) (site : Site) {e : Token}
    (isElse : e.isKeyword "else") (fits : tree.Fits site.limit site.depth)
    (isOpen : tree.EndsOpen) :
    ∃ found, Reads site .program (tree.tokens ++ [e]) found [] ∧ faults found = [] := by
  obtain ⟨body⟩ := tree
  have nothing : Reads site .alternative [e] [] [] :=
    .alternativeStatement isElse (by simp) (by simp) (.statementEnd site)
  refine ⟨_, reads_program_open nothing (.programEnd site) body fits isOpen, ?_⟩
  rw [faults_append, body.faults_findings]
  rfl

/-! ## Programs -/

/-- An input that stops after `else` is no program. It is parsed without a syntax error exactly
if what stands before the `else` is a program that ends with an open conditional. -/
theorem parse_else_errors_eq_nil_iff {tokens : List Token} {word : Token} {limit : Nat}
    (isElse : word.isKeyword "else") :
    ¬ IsProgram limit (tokens ++ [word]) ∧
      ((parse (tokens ++ [word]) limit).errors = [] ↔
        ∃ tree : SyntaxTree .program, tree.tokens = tokens ∧ tree.Fits limit 0 ∧ tree.EndsOpen) := by
  have ends : EndsWithElse (tokens ++ [word]) := endsWithElse_concat.2 isElse
  refine ⟨fun program => ?_, ?_⟩
  · obtain ⟨tree, whole, -⟩ := program
    exact tree.not_endsWithElse (whole ▸ ends)
  · rw [parse_errors]
    constructor
    · intro clean
      have reads := reads_read (.ofProgram (tokens ++ [word]) limit) .program (tokens ++ [word])
      obtain ⟨tree, last, split, fits, isOpen⟩ :=
        reads.exists_open_tree trivial clean trivial reads.program_rest ends
      exact ⟨tree, (List.append_inj' split rfl).1, fits, isOpen⟩
    · intro accepted
      obtain ⟨tree, rfl, fits, isOpen⟩ := accepted
      obtain ⟨found, reads, clean⟩ :=
        tree.reads_open (.ofProgram (tree.tokens ++ [word]) limit) isElse fits isOpen
      rw [findings, reads.read_eq.1, clean]

/-- The second condition of a chain may still lack its alternative. -/
theorem a_chain_may_stop_after_else :
    let ts := (tokenize "if (a) \x7b\x7d else if (b) \x7b int x; \x7d").tokens
    let word : Token := ⟨.keyword, "else", ⟨1, 41⟩⟩
    word.isKeyword "else" ∧ ¬ IsProgram 2 (ts ++ [word]) ∧
      ∃ tree : SyntaxTree .program, tree.tokens = ts ∧ tree.Fits 2 0 ∧ tree.EndsOpen := by
  intro ts word
  have isElse : word.isKeyword "else" := by decide
  obtain ⟨program, accepted⟩ := @parse_else_errors_eq_nil_iff ts word 2 isElse
  exact ⟨isElse, program, accepted.1 (by decide +kernel)⟩

/-- `if (a) {} else` is parsed without a syntax error. -/
theorem an_else_without_a_statement_is_accepted :
    let ts := (tokenize "if (a) \x7b\x7d else").tokens
    EndsWithElse ts ∧ (parse ts 150).errors = [] := by
  have decided : ((tokenize "if (a) \x7b\x7d else").tokens.getLast?.any (·.isKeyword "else")) ∧
      (parse (tokenize "if (a) \x7b\x7d else").tokens 150).errors = [] := by
    decide +kernel
  exact decided

end MiniC
