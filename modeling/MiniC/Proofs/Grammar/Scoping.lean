/-
  MiniC.Proofs.Grammar.Scoping — the scopes of a program, by its tree.

  A declaration belongs to the block that encloses it most closely, or to none. Blocks are
  told by their order in the source (`SyntaxTree.allVariables`).

  Proved:
  - `SyntaxTree.registered_findings`: reading a tree registers the variables of the tree,
    and leaves open the blocks that were open before it.
  - `declared_once_per_block`: of the tree of a text, the first declaration of each name in
    each block is kept, and every other one is an error that points back to it.
-/

import MiniC.Proofs.Grammar.Acceptance
import MiniC.Proofs.Parser.Scoping

namespace MiniC

namespace SyntaxTree

/-- How many blocks there are in a tree. -/
def blocks : {p : Phrase} → SyntaxTree p → Nat
  | _, program body => body.blocks
  | _, noStatement => 0
  | _, statements first others => first.blocks + others.blocks
  | _, ofDeclaration _ => 0
  | _, ofConditional inner => inner.blocks
  | _, ofBlock inner => inner.blocks
  | _, ofExpression _ => 0
  | _, plain _ _ _ => 0
  | _, initialized _ _ _ _ _ => 0
  | _, conditional _ _ _ _ branch other => branch.blocks + other.blocks
  | _, noAlternative => 0
  | _, elseBlock _ inner => inner.blocks
  | _, elseStatement _ inner => inner.blocks
  | _, block _ body _ => 1 + body.blocks
  | _, expressionStatement _ _ => 0
  | _, expression _ _ => 0
  | _, noOperand => 0
  | _, operands _ _ _ => 0
  | _, atom _ => 0
  | _, group _ _ _ => 0

/-- The declarations of a tree, in order, each with the block that most closely encloses it.
Around the tree that is `outer`, and `begun` blocks begin before it. -/
def allVariables (outer : Option Block) (begun : Nat) : {p : Phrase} → SyntaxTree p → List Variable
  | _, program body => body.allVariables outer begun
  | _, noStatement => []
  | _, statements first others =>
    first.allVariables outer begun ++ others.allVariables outer (begun + first.blocks)
  | _, ofDeclaration inner => inner.allVariables outer begun
  | _, ofConditional inner => inner.allVariables outer begun
  | _, ofBlock inner => inner.allVariables outer begun
  | _, ofExpression _ => []
  | _, plain type name _ => [⟨outer, type, name, none⟩]
  | _, initialized type name _ value _ => [⟨outer, type, name, some (spaced value.tokens)⟩]
  | _, conditional _ _ _ _ branch other =>
    branch.allVariables outer begun ++ other.allVariables outer (begun + branch.blocks)
  | _, noAlternative => []
  | _, elseBlock _ inner => inner.allVariables outer begun
  | _, elseStatement _ inner => inner.allVariables outer begun
  | _, block left body _ => body.allVariables (some ⟨begun, some left⟩) (begun + 1)
  | _, expressionStatement _ _ => []
  | _, expression _ _ => []
  | _, noOperand => []
  | _, operands _ _ _ => []
  | _, atom _ => []
  | _, group _ _ _ => []

end SyntaxTree

/-- Is it one of the phrases that no declaration and no block stands in? -/
def Phrase.IsExpression : Phrase → Prop
  | .expressionStatement | .expression | .operands | .primary => True
  | _ => False

theorem registered_group (blocks : List Block) (begun : Nat) (inside later : List Finding) :
    registered blocks begun (Finding.group inside ++ later)
      = registered blocks begun (inside ++ (.ascended :: later)) := by
  rw [Finding.group, List.cons_append, List.append_assoc]
  rfl

theorem registered_block (blocks : List Block) (begun : Nat) (brace : Option Token)
    (inside later : List Finding) :
    registered blocks begun (Finding.block brace inside ++ later)
      = registered (⟨begun, brace⟩ :: blocks) (begun + 1)
          (inside ++ (.ascended :: .closed :: later)) := by
  rw [Finding.block, List.cons_append, List.cons_append, List.append_assoc]
  rfl

namespace SyntaxTree

/-- An expression registers nothing. -/
theorem registered_expression {p : Phrase} (tree : SyntaxTree p) (h : p.IsExpression)
    (around : List Block) (begun : Nat) (later : List Finding) :
    registered around begun (tree.findings ++ later) = registered around begun later := by
  induction tree generalizing later with
  | expressionStatement inner _ ih => exact ih trivial later
  | expression first others ih ih' | operands _ first others ih ih' =>
    rw [findings, List.append_assoc, ih trivial, ih' trivial]
  | noOperand | atom => rfl
  | group _ inner _ ih =>
    rw [findings, registered_group, ih trivial]
    rfl
  | _ => exact h.elim

/-- Reading a tree registers its variables, and leaves open what was open before it. -/
theorem registered_findings {p : Phrase} (tree : SyntaxTree p) (around : List Block) (begun : Nat)
    (later : List Finding) :
    registered around begun (tree.findings ++ later)
      = tree.allVariables around.head? begun ++ registered around (begun + tree.blocks) later := by
  -- The ends of a block stand around its findings, so what is open after it is what was open
  -- before; only the count of blocks goes on.
  induction tree generalizing around begun later with
  | program body ih => exact ih around begun later
  | noStatement | noAlternative => rfl
  | statements first others ih ih' =>
    rw [findings, List.append_assoc, ih, ih', allVariables, blocks, List.append_assoc, Nat.add_assoc]
  | ofDeclaration inner ih =>
    rw [findings, ih]
    cases inner <;> rfl
  | ofConditional inner ih | ofBlock inner ih | elseBlock _ inner ih | elseStatement _ inner ih =>
    exact ih around begun later
  | plain type name _ => rfl
  | initialized type name _ value _ _ =>
    rw [findings, List.append_assoc, registered_expression value trivial]
    rfl
  | conditional _ _ condition _ branch other _ ih ih' =>
    rw [findings, List.append_assoc, List.append_assoc, registered_expression condition trivial,
      ih, ih', allVariables, blocks, List.append_assoc, Nat.add_assoc]
  | block left body _ ih =>
    rw [findings, registered_block, ih, allVariables, blocks, Nat.add_assoc]
    rfl
  | ofExpression inner _ => exact registered_expression inner trivial around begun later
  | expressionStatement inner stop _ =>
    exact registered_expression (.expressionStatement inner stop) trivial around begun later
  | expression first others _ _ =>
    exact registered_expression (.expression first others) trivial around begun later
  | noOperand | atom => rfl
  | operands sign first others _ _ =>
    exact registered_expression (.operands sign first others) trivial around begun later
  | group left inner right _ =>
    exact registered_expression (.group left inner right) trivial around begun later

/-- A program registers the variables of its tree. -/
theorem allVariables_eq {tree : SyntaxTree .program} {limit : Nat} (fits : tree.Fits limit 0) :
    MiniC.allVariables tree.tokens limit = tree.allVariables none 0 := by
  have found := tree.registered_findings [] 0 []
  rw [List.append_nil, ← SyntaxTree.findings_eq fits, registered, List.append_nil] at found
  exact found

/-- Every block of a tree has its brace. -/
theorem braced {p : Phrase} (tree : SyntaxTree p) {outer : Option Block} (begun : Nat)
    (h : ∀ b, outer = some b → b.brace.isSome) :
    ∀ v ∈ tree.allVariables outer begun, ∀ b, v.block = some b → b.brace.isSome := by
  induction tree generalizing outer begun with
  | program body ih => exact ih begun h
  | ofDeclaration inner ih | ofConditional inner ih | ofBlock inner ih => exact ih begun h
  | elseBlock _ inner ih | elseStatement _ inner ih => exact ih begun h
  | statements first others ih ih' =>
    intro v mem
    rcases List.mem_append.1 mem with mem | mem
    · exact ih begun h v mem
    · exact ih' (begun + first.blocks) h v mem
  | conditional _ _ _ _ branch other _ ih ih' =>
    intro v mem
    rcases List.mem_append.1 mem with mem | mem
    · exact ih begun h v mem
    · exact ih' (begun + branch.blocks) h v mem
  | plain | initialized =>
    intro v mem b hb
    rw [allVariables, List.mem_singleton] at mem
    subst mem
    exact h b hb
  | block left body _ ih =>
    apply ih (begun + 1)
    intro b hb
    cases hb
    rfl
  | _ =>
    intro v mem
    exact absurd mem List.not_mem_nil

end SyntaxTree

/-- The variables stand directly in one block, or outside of every block, and the names agree. -/
def Variable.Same (v w : Variable) : Prop := v.block = w.block ∧ v.name.lexeme = w.name.lexeme

instance : DecidableRel Variable.Same := fun _ _ => inferInstanceAs (Decidable (_ ∧ _))

/-- Where every block has its brace, names clash only within one block. -/
theorem Variable.clash_iff_same {v w : Variable} (h : ∀ b, v.block = some b → b.brace.isSome) :
    v.Clash w ↔ v.Same w := by
  have opened : ¬ v.unopened := by
    unfold unopened
    cases hb : v.block with
    | none => simp
    | some b => simpa [Option.isSome_iff_ne_none] using h b hb
  simp [Clash, Same, opened, and_comm]

/-- In a text that is a program, the first variable of each name in each block is declared,
and every other one is refused because of that first one. -/
theorem declared_once_per_block {source : String} {limit : Nat} {tree : SyntaxTree .program}
    (derives : tree.tokens = (tokenize source).tokens) (fits : tree.Fits limit 0) :
    (parse (tokenize source).tokens limit).declarations
        = (firsts Variable.Same [] (tree.allVariables none 0)).map Variable.declaration ∧
      (parse (tokenize source).tokens limit).semanticErrors
        = (repeats Variable.Same [] (tree.allVariables none 0)).map fun (v, w) => v.refusal w := by
  have parsed := parse_variables (tokenize_inOrder source) limit
  rw [← derives, SyntaxTree.allVariables_eq fits] at parsed
  have braced := @SyntaxTree.braced _ tree none 0 fun _ none => absurd none (by simp)
  have same : ∀ v ∈ [] ++ tree.allVariables none 0, ∀ w ∈ [] ++ tree.allVariables none 0,
      v.Clash w ↔ v.Same w := fun v mem _ _ => Variable.clash_iff_same (braced v mem)
  have kept := firsts_repeats_congr same
  rwa [kept.1, kept.2, derives] at parsed

/-- A block may take a name that is taken around it, once. -/
theorem a_block_takes_a_name_once :
    let source := "int x = 1+2; \x7b int x; float x; \x7d"
    let token (kind : TokenKind) (text : String) (column : Int) : Token := ⟨kind, text, ⟨1, column⟩⟩
    let mark (text : String) (column : Int) : Token := token .delimiter text column
    let sign (text : String) (column : Int) : Token := token .operator text column
    let digit (text : String) (column : Int) : Token := token .number text column
    let word (text : String) (column : Int) : Token := token .keyword text column
    let name (column : Int) : Token := token .identifier "x" column
    let value : SyntaxTree .expression :=
      .expression (.atom ⟨digit "1" 9, rfl⟩)
        (.operands ⟨sign "+" 10, rfl⟩ (.atom ⟨digit "2" 11, rfl⟩) .noOperand)
    let first : SyntaxTree .declaration :=
      .initialized ⟨word "int" 1, rfl⟩ ⟨name 5, rfl⟩ ⟨sign "=" 7, rfl⟩ value ⟨mark ";" 12, rfl⟩
    let second : SyntaxTree .declaration := .plain ⟨word "int" 16, rfl⟩ ⟨name 20, rfl⟩ ⟨mark ";" 21, rfl⟩
    let third : SyntaxTree .declaration := .plain ⟨word "float" 23, rfl⟩ ⟨name 29, rfl⟩ ⟨mark ";" 30, rfl⟩
    let body : SyntaxTree .blockBody :=
      .statements (.ofDeclaration second) (.statements (.ofDeclaration third) .noStatement)
    let tree : SyntaxTree .program := .program (.statements (.ofDeclaration first)
      (.statements (.ofBlock (.block ⟨mark "\x7b" 14, rfl⟩ body ⟨mark "\x7d" 32, rfl⟩)) .noStatement))
    tree.tokens = (tokenize source).tokens ∧ tree.Fits 2 0 ∧
      (parse (tokenize source).tokens 2).declarations
        = [⟨"x", some "int", "global", some "1 + 2", ⟨1, 5⟩⟩,
          ⟨"x", some "int", "block@1:14", none, ⟨1, 20⟩⟩] ∧
      (parse (tokenize source).tokens 2).semanticErrors
        = [⟨.redeclaration, "x", "block@1:14",
          "variable 'x' is already declared in scope 'block@1:14'", ⟨1, 29⟩, some 1, some 20⟩] := by
  intro source token mark sign digit word name value first second third body tree
  have derives : tree.tokens = (tokenize source).tokens := by decide +kernel
  have fits : tree.Fits 2 0 := by simp [tree, body, first, second, third, value, SyntaxTree.Fits]
  obtain ⟨declared, refused⟩ := declared_once_per_block derives fits
  rw [declared, refused]
  exact ⟨derives, fits, by decide +kernel, by decide +kernel⟩

end MiniC
