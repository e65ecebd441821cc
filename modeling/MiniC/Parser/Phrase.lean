/-
  MiniC.Parser.Phrase — reading the phrases of the grammar from a token list.

    program     := statement*
    statement   := declaration | conditional | block | expression ';'
    declaration := type identifier ('=' expression)? ';'
    conditional := 'if' '(' expression ')' block alternative
    alternative := ('else' (conditional | block | statement))?
    block       := '{' statement* '}'
    expression  := primary (operator primary)*
    primary     := identifier | literal | '(' expression ')'

  Reading never fails. Where the grammar calls for one token and another stands there, a
  fault is noted at that token and the token is passed over; at the end of the input the
  fault is noted at the last token of all. So a place where one token is called for always
  uses up exactly one token, if there is one, and what is read next does not depend on
  whether it was the right one (`expect`). A statement or a parenthesis that stands at the
  nesting limit is a fault as a whole, and its first token is passed over. At the end of
  the input a statement and a primary are read as nothing, without a fault.

  What is found is noted in order: the faults, the names declared, and where blocks and
  levels of nesting begin and end. Which scope a name goes into is left to whoever takes
  the findings.

  A reading carries the bound that makes the recursion end: it leaves no more tokens than
  it was given, and fewer whenever its phrase must use one up (`Phrase.due`).
-/

import MiniC.Diagnostic
import MiniC.Token

namespace MiniC

/-- What is noted while reading, in order. -/
inductive Finding where
  | fault (error : SyntaxError)
  /-- A block begins: `brace` opens it, unless it is missing. -/
  | opened (brace : Option Token)
  /-- The innermost block ends. -/
  | closed
  /-- One more level of nesting. -/
  | descended
  /-- One level less. -/
  | ascended
  | declared (type name : Token) (initial : Option String)
  deriving DecidableEq, Repr

namespace Finding

/-- A whole block: what is noted inside it, between its ends. -/
def block (brace : Option Token) (inside : List Finding) : List Finding :=
  .opened brace :: .descended :: (inside ++ [.ascended, .closed])

/-- A whole parenthesis. -/
def group (inside : List Finding) : List Finding := .descended :: (inside ++ [.ascended])

/-- What is noted where a declaration has been read: a name after the type, if there is one. -/
def declaration (type : Token) (ts : List Token) (initial : Option String) : List Finding :=
  match ts with
  | [] => []
  | t :: _ => if t.isIdentifier then [.declared type t initial] else []

end Finding

/-- Where a phrase stands: what reading it depends on besides its tokens. -/
structure Site where
  /-- How deep blocks and parentheses may be nested. -/
  limit : Nat
  /-- How deep they are nested here. -/
  depth : Nat
  /-- Where a fault at the end of the input is noted. -/
  finish : Position
  deriving DecidableEq, Repr

namespace Site

/-- One level deeper. -/
def deeper (site : Site) : Site := { site with depth := site.depth + 1 }

/-- Is there no room for one more level? -/
def full (site : Site) : Bool := site.limit ≤ site.depth

/-- Where a fault is noted: at the token that stands there, or else at the end. -/
def place (site : Site) : List Token → Position
  | [] => site.finish
  | t :: _ => t.position

/-- What is noted where the grammar calls for a token of the class `wanted`. -/
def expect (site : Site) (ts : List Token) (wanted : Token → Bool) (what : Expectation) :
    List Finding :=
  if ts.head?.any wanted then [] else [.fault ⟨.expected what, site.place ts⟩]

end Site

/-- The phrases of the grammar. The last three are the open ends of others: the statements
inside a block, the operators that continue an expression, and what follows the block of a
conditional. -/
inductive Phrase where
  | program
  | statement
  | declaration
  | conditional
  | block
  | expressionStatement
  | expression
  | primary
  | blockBody
  | operands
  | alternative
  deriving DecidableEq, Repr

namespace Phrase

/-- How many tokens reading the phrase has to use up: one, if there is one, for all but the
open ends. -/
def due : Phrase → List Token → Nat
  | .blockBody, _ => 0
  | .operands, _ => 0
  | .alternative, _ => 0
  | _, [] => 0
  | _, _ :: _ => 1

theorem due_le (p : Phrase) (ts : List Token) : p.due ts ≤ min 1 ts.length := by
  cases p <;> cases ts <;> simp [due]

/-- The place of a phrase in the order in which one may open with another. -/
def rank : Phrase → Nat
  | .program => 9
  | .blockBody => 9
  | .statement => 8
  | .conditional => 7
  | .declaration => 6
  | .expressionStatement => 6
  | .alternative => 6
  | .block => 5
  | .expression => 4
  | .operands => 3
  | .primary => 2

end Phrase

/-- What reading the phrase `p` from `ts` finds and leaves. -/
structure Reading (p : Phrase) (ts : List Token) where
  found : List Finding
  rest : List Token
  used : rest.length + p.due ts ≤ ts.length

/-- The lexemes of the tokens that stand in `ts` before `rest`, one space between each two;
none if there are no such tokens. -/
def lexemesBefore (ts rest : List Token) : Option String :=
  match ts.take (ts.length - rest.length) with
  | [] => none
  | used => some (" ".intercalate (used.map (·.lexeme)))

namespace Phrase

/-- Read the phrase `p` from `ts`. -/
def read (site : Site) : (p : Phrase) → (ts : List Token) → Reading p ts
  | .program, [] => ⟨[], [], Nat.le_refl 0⟩
  | .program, t :: r =>
    let ⟨first, ts₁, h₁⟩ := read site .statement (t :: r)
    have : ts₁.length < (t :: r).length := h₁
    let ⟨others, ts₂, h₂⟩ := read site .program ts₁
    ⟨first ++ others, ts₂, by simp only [due]; omega⟩
  | .statement, [] => ⟨[], [], Nat.le_refl 0⟩
  | .statement, t :: r =>
    if site.full then ⟨[.fault ⟨.tooDeep t.lexeme, t.position⟩], r, Nat.le_refl _⟩
    else if t.isTypeKeyword then
      let ⟨found, ts₁, h₁⟩ := read site .declaration (t :: r)
      ⟨found, ts₁, h₁⟩
    else if t.isKeyword "if" then
      let ⟨found, ts₁, h₁⟩ := read site .conditional (t :: r)
      ⟨found, ts₁, h₁⟩
    else if t.isDelimiter "\x7b" then
      let ⟨found, ts₁, h₁⟩ := read site .block (t :: r)
      ⟨found, ts₁, h₁⟩
    else
      let ⟨found, ts₁, h₁⟩ := read site .expressionStatement (t :: r)
      ⟨found, ts₁, h₁⟩
  | .declaration, [] => ⟨[.fault ⟨.expected .type, site.finish⟩], [], Nat.le_refl 0⟩
  | .declaration, t :: r =>
    if t.isTypeKeyword then
      let unnamed := site.expect r Token.isIdentifier .identifier
      if r.tail.head?.any (·.isOperator "=") then
        let ⟨value, ts₁, h₁⟩ := read site .expression r.tail.tail
        let initial := lexemesBefore r.tail.tail ts₁
        ⟨unnamed ++ value ++ site.expect ts₁ (·.isDelimiter ";") .declarationEnd
            ++ Finding.declaration t r initial, ts₁.tail, by
          simp only [due, List.length_tail, List.length_cons] at *; omega⟩
      else
        ⟨unnamed ++ site.expect r.tail (·.isDelimiter ";") .declarationEnd
            ++ Finding.declaration t r none, r.tail.tail, by
          simp only [due, List.length_tail, List.length_cons]; omega⟩
    else ⟨[.fault ⟨.expected .type, t.position⟩], r, Nat.le_refl _⟩
  | .conditional, ts =>
    let ⟨condition, ts₁, h₁⟩ := read site .expression ts.tail.tail
    let ⟨branch, ts₂, h₂⟩ := read site .block ts₁.tail
    let ⟨other, ts₃, h₃⟩ := read site .alternative ts₂
    have h₄ := due_le .conditional ts
    ⟨site.expect ts (·.isKeyword "if") .ifKeyword
        ++ site.expect ts.tail (·.isDelimiter "(") .conditionOpen ++ condition
        ++ site.expect ts₁ (·.isDelimiter ")") .conditionClose ++ branch ++ other, ts₃, by
      simp only [List.length_tail] at *; omega⟩
  | .alternative, [] => ⟨[], [], Nat.le_refl 0⟩
  | .alternative, t :: r =>
    if t.isKeyword "else" then
      if r.head?.any (·.isKeyword "if") then
        let ⟨other, ts₁, h₁⟩ := read site .conditional r
        ⟨other, ts₁, by simp only [due, List.length_cons] at *; omega⟩
      else if r.head?.any (·.isDelimiter "\x7b") then
        let ⟨other, ts₁, h₁⟩ := read site .block r
        ⟨other, ts₁, by simp only [due, List.length_cons] at *; omega⟩
      else
        let ⟨other, ts₁, h₁⟩ := read site .statement r
        ⟨other, ts₁, by simp only [due, List.length_cons] at *; omega⟩
    else ⟨[], t :: r, Nat.le_refl _⟩
  | .block, [] =>
    ⟨site.expect [] (·.isDelimiter "\x7b") .blockOpen
      ++ Finding.block none (site.expect [] (·.isDelimiter "\x7d") .blockClose), [],
      Nat.le_refl 0⟩
  | .block, t :: r =>
    let brace := if t.isDelimiter "\x7b" then some t else none
    let ⟨body, ts₁, h₁⟩ := read site.deeper .blockBody r
    ⟨site.expect (t :: r) (·.isDelimiter "\x7b") .blockOpen
        ++ Finding.block brace (body ++ site.expect ts₁ (·.isDelimiter "\x7d") .blockClose),
      ts₁.tail, by simp only [due, List.length_tail, List.length_cons] at *; omega⟩
  | .blockBody, [] => ⟨[], [], Nat.le_refl 0⟩
  | .blockBody, t :: r =>
    if t.isDelimiter "\x7d" then ⟨[], t :: r, Nat.le_refl _⟩
    else
      let ⟨first, ts₁, h₁⟩ := read site .statement (t :: r)
      have : ts₁.length < (t :: r).length := h₁
      let ⟨others, ts₂, h₂⟩ := read site .blockBody ts₁
      ⟨first ++ others, ts₂, by simp only [due] at *; omega⟩
  | .expressionStatement, ts =>
    let ⟨found, ts₁, h₁⟩ := read site .expression ts
    ⟨found ++ site.expect ts₁ (·.isDelimiter ";") .expressionEnd, ts₁.tail, by
      have : due .expressionStatement ts = due .expression ts := by cases ts <;> rfl
      simp only [List.length_tail]; omega⟩
  | .expression, ts =>
    let ⟨first, ts₁, h₁⟩ := read site .primary ts
    let ⟨others, ts₂, h₂⟩ := read site .operands ts₁
    ⟨first ++ others, ts₂, by
      have : due .expression ts = due .primary ts := by cases ts <;> rfl
      omega⟩
  | .operands, [] => ⟨[], [], Nat.le_refl 0⟩
  | .operands, t :: r =>
    if t.isAnyOperator then
      let ⟨first, ts₁, h₁⟩ := read site .primary r
      let ⟨others, ts₂, h₂⟩ := read site .operands ts₁
      ⟨first ++ others, ts₂, by simp only [due, List.length_cons] at *; omega⟩
    else ⟨[], t :: r, Nat.le_refl _⟩
  | .primary, [] => ⟨[], [], Nat.le_refl 0⟩
  | .primary, t :: r =>
    if t.isIdentifier || t.isLiteral then ⟨[], r, Nat.le_refl _⟩
    else if t.isDelimiter "(" then
      if site.full then ⟨[.fault ⟨.tooDeep t.lexeme, t.position⟩], r, Nat.le_refl _⟩
      else
        let ⟨inner, ts₁, h₁⟩ := read site.deeper .expression r
        ⟨Finding.group (inner ++ site.expect ts₁ (·.isDelimiter ")") .groupClose), ts₁.tail, by
          simp only [due, List.length_tail, List.length_cons] at *; omega⟩
    else ⟨[.fault ⟨.invalidExpression t.lexeme, t.position⟩], r, Nat.le_refl _⟩
termination_by p ts => 16 * ts.length + p.rank
decreasing_by
  all_goals simp only [rank, List.length_tail, List.length_cons] at *
  all_goals omega

end Phrase

end MiniC
