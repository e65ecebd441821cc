/-
  MiniC.Proofs.Grammar — the grammar, as its derivation trees.

    program     := statement*
    statement   := declaration | conditional | block | expression ';'
    declaration := type identifier ('=' expression)? ';'
    conditional := 'if' '(' expression ')' block ('else' (block | statement))?
    block       := '{' statement* '}'
    expression  := primary (operator primary)*
    primary     := identifier | literal | '(' expression ')'

  A tree has one constructor for each production and the tokens at its leaves, each with
  the proof that it is of the class that the production calls for. What a tree derives are
  its tokens, in order (`SyntaxTree.tokens`). `SyntaxTree.Fits` says that a tree keeps to a nesting
  limit: each statement and each parenthesis in it lies inside fewer blocks and
  parentheses than the limit. The parentheses of a condition and the links of a chain of
  conditionals are not counted.

  Proved: `SyntaxTree.starts`, with which tokens the tokens of a tree may start; a token that may
  follow a phrase is none that would continue it (`Phrase.Follows`).
-/

import MiniC.Parser.Phrase

namespace MiniC

/-- A token of the class that is called for. -/
abbrev Terminal (wanted : Token → Bool) := { t : Token // wanted t }

abbrev Terminal.word (text : String) := Terminal (·.isKeyword text)

abbrev Terminal.mark (text : String) := Terminal (·.isDelimiter text)

/-- The derivation trees of the phrase `p`. -/
inductive SyntaxTree : (p : Phrase) → Type
  | program (body : SyntaxTree .blockBody) : SyntaxTree .program
  | noStatement : SyntaxTree .blockBody
  | statements (first : SyntaxTree .statement) (others : SyntaxTree .blockBody) : SyntaxTree .blockBody
  | ofDeclaration (inner : SyntaxTree .declaration) : SyntaxTree .statement
  | ofConditional (inner : SyntaxTree .conditional) : SyntaxTree .statement
  | ofBlock (inner : SyntaxTree .block) : SyntaxTree .statement
  | ofExpression (inner : SyntaxTree .expressionStatement) : SyntaxTree .statement
  | plain (type : Terminal Token.isTypeKeyword) (name : Terminal Token.isIdentifier)
      (stop : Terminal.mark ";") : SyntaxTree .declaration
  | initialized (type : Terminal Token.isTypeKeyword) (name : Terminal Token.isIdentifier)
      (sign : Terminal (·.isOperator "=")) (value : SyntaxTree .expression)
      (stop : Terminal.mark ";") : SyntaxTree .declaration
  | conditional (word : Terminal.word "if") (left : Terminal.mark "(")
      (condition : SyntaxTree .expression) (right : Terminal.mark ")") (branch : SyntaxTree .block)
      (other : SyntaxTree .alternative) : SyntaxTree .conditional
  | noAlternative : SyntaxTree .alternative
  | elseBlock (word : Terminal.word "else") (inner : SyntaxTree .block) : SyntaxTree .alternative
  | elseStatement (word : Terminal.word "else") (inner : SyntaxTree .statement) : SyntaxTree .alternative
  | block (left : Terminal.mark "\x7b") (body : SyntaxTree .blockBody) (right : Terminal.mark "\x7d") :
      SyntaxTree .block
  | expressionStatement (inner : SyntaxTree .expression) (stop : Terminal.mark ";") :
      SyntaxTree .expressionStatement
  | expression (first : SyntaxTree .primary) (others : SyntaxTree .operands) : SyntaxTree .expression
  | noOperand : SyntaxTree .operands
  | operands (sign : Terminal Token.isAnyOperator) (first : SyntaxTree .primary)
      (others : SyntaxTree .operands) : SyntaxTree .operands
  | atom (t : Terminal fun t => t.isIdentifier || t.isLiteral) : SyntaxTree .primary
  | group (left : Terminal.mark "(") (inner : SyntaxTree .expression) (right : Terminal.mark ")") :
      SyntaxTree .primary

/-- The lexemes of the tokens, one space between each two. -/
def spaced (ts : List Token) : String := " ".intercalate (ts.map (·.lexeme))

namespace SyntaxTree

/-- The tokens at the leaves, in order. -/
def tokens : {p : Phrase} → SyntaxTree p → List Token
  | _, program body => body.tokens
  | _, noStatement => []
  | _, statements first others => first.tokens ++ others.tokens
  | _, ofDeclaration inner => inner.tokens
  | _, ofConditional inner => inner.tokens
  | _, ofBlock inner => inner.tokens
  | _, ofExpression inner => inner.tokens
  | _, plain type name stop => [type.val, name.val, stop.val]
  | _, initialized type name sign value stop =>
    type.val :: name.val :: sign.val :: (value.tokens ++ [stop.val])
  | _, conditional word left condition right branch other =>
    word.val :: left.val :: (condition.tokens ++ right.val :: (branch.tokens ++ other.tokens))
  | _, noAlternative => []
  | _, elseBlock word inner => word.val :: inner.tokens
  | _, elseStatement word inner => word.val :: inner.tokens
  | _, block left body right => left.val :: (body.tokens ++ [right.val])
  | _, expressionStatement inner stop => inner.tokens ++ [stop.val]
  | _, expression first others => first.tokens ++ others.tokens
  | _, noOperand => []
  | _, operands sign first others => sign.val :: (first.tokens ++ others.tokens)
  | _, atom t => [t.val]
  | _, group left inner right => left.val :: (inner.tokens ++ [right.val])

/-- The tree, standing inside `depth` blocks and parentheses, keeps to the limit. -/
def Fits (limit : Nat) : {p : Phrase} → (depth : Nat) → SyntaxTree p → Prop
  | _, d, program body => body.Fits limit d
  | _, _, noStatement => True
  | _, d, statements first others => first.Fits limit d ∧ others.Fits limit d
  | _, d, ofDeclaration inner => d < limit ∧ inner.Fits limit d
  | _, d, ofConditional inner => d < limit ∧ inner.Fits limit d
  | _, d, ofBlock inner => d < limit ∧ inner.Fits limit d
  | _, d, ofExpression inner => d < limit ∧ inner.Fits limit d
  | _, _, plain _ _ _ => True
  | _, d, initialized _ _ _ value _ => value.Fits limit d
  | _, d, conditional _ _ condition _ branch other =>
    condition.Fits limit d ∧ branch.Fits limit d ∧ other.Fits limit d
  | _, _, noAlternative => True
  | _, d, elseBlock _ inner => inner.Fits limit d
  | _, d, elseStatement _ inner => inner.Fits limit d
  | _, d, block _ body _ => body.Fits limit (d + 1)
  | _, d, expressionStatement inner _ => inner.Fits limit d
  | _, d, expression first others => first.Fits limit d ∧ others.Fits limit d
  | _, _, noOperand => True
  | _, d, operands _ first others => first.Fits limit d ∧ others.Fits limit d
  | _, _, atom _ => True
  | _, d, group _ inner _ => d < limit ∧ inner.Fits limit (d + 1)

/-- What a tree holds, in order: its declarations, and where its blocks and parentheses begin
and end. -/
def findings : {p : Phrase} → SyntaxTree p → List Finding
  | _, program body => body.findings
  | _, noStatement => []
  | _, statements first others => first.findings ++ others.findings
  | _, ofDeclaration inner => inner.findings
  | _, ofConditional inner => inner.findings
  | _, ofBlock inner => inner.findings
  | _, ofExpression inner => inner.findings
  | _, plain type name _ => [.declared type name none]
  | _, initialized type name _ value _ =>
    value.findings ++ [.declared type name (some (spaced value.tokens))]
  | _, conditional _ _ condition _ branch other =>
    condition.findings ++ branch.findings ++ other.findings
  | _, noAlternative => []
  | _, elseBlock _ inner => inner.findings
  | _, elseStatement _ inner => inner.findings
  | _, block left body _ => Finding.block (some left) body.findings
  | _, expressionStatement inner _ => inner.findings
  | _, expression first others => first.findings ++ others.findings
  | _, noOperand => []
  | _, operands _ first others => first.findings ++ others.findings
  | _, atom _ => []
  | _, group _ inner _ => Finding.group inner.findings

/-- There are no faults in a tree. -/
theorem fault_notMem_findings {p : Phrase} (tree : SyntaxTree p) (e : SyntaxError) :
    .fault e ∉ tree.findings := by
  induction tree <;> simp_all [findings, Finding.block, Finding.group]

end SyntaxTree

/-- The tokens are a program that keeps to the limit. -/
def IsProgram (limit : Nat) (ts : List Token) : Prop :=
  ∃ tree : SyntaxTree .program, tree.tokens = ts ∧ tree.Fits limit 0

/-! ## How phrases start and what follows them -/

namespace Token

/-- Can an expression start with the token? -/
def startsExpression (t : Token) : Bool := t.isIdentifier || t.isLiteral || t.isDelimiter "("

/-- Can a statement start with the token? -/
def startsStatement (t : Token) : Bool :=
  t.isTypeKeyword || t.isKeyword "if" || t.isDelimiter "\x7b" || t.startsExpression

theorem isDelimiter_iff {t : Token} {mark : String} :
    t.isDelimiter mark ↔ t.kind = .delimiter ∧ t.lexeme = mark := by
  simp [isDelimiter]

theorem isKeyword_iff {t : Token} {word : String} :
    t.isKeyword word ↔ t.kind = .keyword ∧ t.lexeme = word := by
  simp [isKeyword]

theorem isTypeKeyword_iff {t : Token} :
    t.isTypeKeyword ↔ t.kind = .keyword ∧ t.lexeme ∈ Vocabulary.typeKeywords := by
  simp [isTypeKeyword]

theorem startsExpression_iff {t : Token} : t.startsExpression ↔
    t.kind = .identifier ∨ t.kind = .number ∨ t.kind = .string
      ∨ (t.kind = .keyword ∧ t.lexeme ∈ Vocabulary.booleanLiterals)
      ∨ (t.kind = .delimiter ∧ t.lexeme = "(") := by
  simp [startsExpression, isIdentifier, isLiteral, isDelimiter, or_assoc]

theorem not_isAnyOperator_of_isDelimiter {t : Token} {mark : String} (h : t.isDelimiter mark) :
    ¬ t.isAnyOperator := by
  simp [isAnyOperator, (isDelimiter_iff.mp h).1]

/-- A delimiter is no keyword. -/
theorem not_isKeyword_of_isDelimiter {t : Token} {mark word : String} (h : t.isDelimiter mark) :
    ¬ t.isKeyword word := by
  simp [isKeyword, (isDelimiter_iff.mp h).1]

theorem not_isTypeKeyword_of_isDelimiter {t : Token} {mark : String} (h : t.isDelimiter mark) :
    ¬ t.isTypeKeyword := by
  simp [isTypeKeyword, (isDelimiter_iff.mp h).1]

theorem not_isDelimiter_of_isKeyword {t : Token} {mark word : String} (h : t.isKeyword word) :
    ¬ t.isDelimiter mark := by
  simp [isDelimiter, (isKeyword_iff.mp h).1]

theorem not_isDelimiter_of_isTypeKeyword {t : Token} {mark : String} (h : t.isTypeKeyword) :
    ¬ t.isDelimiter mark := by
  simp [isDelimiter, (isTypeKeyword_iff.mp h).1]

theorem not_isAtom_of_isDelimiter {t : Token} {mark : String} (h : t.isDelimiter mark) :
    ¬ (t.isIdentifier || t.isLiteral) := by
  simp [isIdentifier, isLiteral, (isDelimiter_iff.mp h).1]

/-- A word outside the type names is none of them. -/
theorem not_isTypeKeyword_of_isKeyword {t : Token} {word : String} (h : t.isKeyword word)
    (hw : word ∉ Vocabulary.typeKeywords) : ¬ t.isTypeKeyword := by
  intro ht
  rw [isTypeKeyword_iff, (isKeyword_iff.mp h).2] at ht
  exact hw ht.2

/-- An expression starts with no word but a boolean literal. -/
theorem not_isKeyword_of_startsExpression {t : Token} {word : String} (h : t.startsExpression)
    (hw : word ∉ Vocabulary.booleanLiterals) : ¬ t.isKeyword word := by
  intro hk
  obtain ⟨hkind, rfl⟩ := isKeyword_iff.mp hk
  rw [startsExpression_iff, hkind] at h
  simp_all

theorem not_isTypeKeyword_of_startsExpression {t : Token} (h : t.startsExpression) :
    ¬ t.isTypeKeyword := by
  intro ht
  obtain ⟨hkind, hl⟩ := isTypeKeyword_iff.mp ht
  have hb : t.lexeme ∈ Vocabulary.booleanLiterals := by
    rw [startsExpression_iff, hkind] at h
    simpa using h
  revert hl hb
  simp only [Vocabulary.typeKeywords, Vocabulary.booleanLiterals, List.mem_cons, List.not_mem_nil]
  intro hl
  rcases hl with hl | hl | hl | hl | hl <;> simp [hl]

theorem not_isDelimiter_of_startsExpression {t : Token} {mark : String} (h : t.startsExpression)
    (hm : mark ≠ "(") : ¬ t.isDelimiter mark := by
  intro hd
  obtain ⟨hkind, rfl⟩ := isDelimiter_iff.mp hd
  rw [startsExpression_iff, hkind] at h
  simp_all

/-- A statement starts neither with `else` nor with a closing brace. -/
theorem startsStatement_stops {t : Token} (h : t.startsStatement) :
    ¬ t.isKeyword "else" ∧ ¬ t.isDelimiter "\x7d" := by
  simp only [startsStatement, Bool.or_eq_true] at h
  rcases h with ((h | h) | h) | h
  · refine ⟨fun hk => not_isTypeKeyword_of_isKeyword hk (by decide) h, not_isDelimiter_of_isTypeKeyword h⟩
  · refine ⟨fun hk => ?_, not_isDelimiter_of_isKeyword h⟩
    have := (isKeyword_iff.mp h).2.symm.trans (isKeyword_iff.mp hk).2
    simp at this
  · refine ⟨not_isKeyword_of_isDelimiter h, fun hd => ?_⟩
    have := (isDelimiter_iff.mp h).2.symm.trans (isDelimiter_iff.mp hd).2
    simp at this
  · exact ⟨not_isKeyword_of_startsExpression h (by decide),
      not_isDelimiter_of_startsExpression h (by decide)⟩

end Token

namespace Phrase

/-- What the tokens of the phrase start with; an open end may have none. -/
def Starts : Phrase → List Token → Prop
  | .program, ts => ts.head?.all Token.startsStatement
  | .blockBody, ts => ts.head?.all Token.startsStatement
  | .statement, ts => ts.head?.any Token.startsStatement
  | .declaration, ts => ts.head?.any Token.isTypeKeyword
  | .conditional, ts => ts.head?.any (·.isKeyword "if")
  | .alternative, ts => ts.head?.all (·.isKeyword "else")
  | .block, ts => ts.head?.any (·.isDelimiter "\x7b")
  | .expressionStatement, ts => ts.head?.any Token.startsExpression
  | .expression, ts => ts.head?.any Token.startsExpression
  | .operands, ts => ts.head?.all Token.isAnyOperator
  | .primary, ts => ts.head?.any Token.startsExpression

/-- What may follow the tokens of the phrase: no token that would continue it. -/
def Follows : Phrase → List Token → Prop
  | .program, rest => rest = []
  | .blockBody, rest => rest.head?.all (·.isDelimiter "\x7d")
  | .statement, rest | .conditional, rest | .alternative, rest =>
    ¬ rest.head?.any (·.isKeyword "else")
  | .expression, rest | .operands, rest => ¬ rest.head?.any Token.isAnyOperator
  | _, _ => True

end Phrase

theorem head?_append_any {ts rest : List Token} {wanted : Token → Bool} (h : ts.head?.any wanted) :
    (ts ++ rest).head?.any wanted := by
  cases ts with
  | nil => simp at h
  | cons t r => exact h

theorem exists_cons_of_head?_any {ts : List Token} {wanted : Token → Bool} (h : ts.head?.any wanted) :
    ∃ t r, ts = t :: r ∧ wanted t := by
  cases ts with
  | nil => simp at h
  | cons t r => exact ⟨t, r, rfl, h⟩

theorem SyntaxTree.starts {p : Phrase} (tree : SyntaxTree p) : p.Starts tree.tokens := by
  induction tree with
  | program body ih => exact ih
  | noStatement | noAlternative | noOperand => rfl
  | statements first others ih _ =>
    obtain ⟨t, r, hts, ht⟩ := exists_cons_of_head?_any ih
    simp only [Phrase.Starts, tokens, hts]
    exact ht
  | ofDeclaration inner ih | ofConditional inner ih | ofBlock inner ih | ofExpression inner ih =>
    obtain ⟨t, r, hts, ht⟩ := exists_cons_of_head?_any ih
    simp [Phrase.Starts, tokens, hts, Token.startsStatement, ht]
  | plain type | initialized type => exact type.property
  | conditional word | elseBlock word | elseStatement word => exact word.property
  | block left => exact left.property
  | expressionStatement inner stop ih => exact head?_append_any ih
  | expression first others ih _ => exact head?_append_any ih
  | operands sign => exact sign.property
  | atom t =>
    have h : t.val.startsExpression := Bool.or_eq_true_iff.mpr (.inl t.property)
    exact h
  | group left =>
    have h : left.val.startsExpression := Bool.or_eq_true_iff.mpr (.inr left.property)
    exact h

theorem SyntaxTree.tokens_ne_nil (value : SyntaxTree .expression) : value.tokens ≠ [] := by
  obtain ⟨t, r, hts, -⟩ := exists_cons_of_head?_any value.starts
  rw [hts]
  exact List.cons_ne_nil t r

/-- Before further statements, or before what follows all of them, a statement ends. -/
theorem SyntaxTree.follows_statement {rest : List Token} (others : SyntaxTree .blockBody)
    (follows : Phrase.Follows .blockBody rest) : Phrase.Follows .statement (others.tokens ++ rest) := by
  have start := others.starts
  simp only [Phrase.Starts, Phrase.Follows] at start follows ⊢
  cases hts : others.tokens with
  | cons t r =>
    rw [hts] at start
    exact (Token.startsStatement_stops start).1
  | nil =>
    cases rest with
    | nil => simp
    | cons t r => exact Token.not_isKeyword_of_isDelimiter follows

end MiniC
