/-
  MiniC.Proofs.Parser.CallDepth — how deep the calls of the readers are nested.

  Reading with a budget (`Phrase.readWithin`) is reading in which the reader of a phrase calls
  those of its parts, each call takes one unit of what the caller has left, and a call that finds
  nothing left fails. A repetition is no call: the statements of a program and of a block, the
  operators of an expression and the links of a chain of conditionals are read one after another
  by the reader that they belong to, each with all that it has left.

  A level of blocks takes three calls (statement, conditional, block) and a level of parentheses
  two (expression, primary). The statement behind `else` is none that begins another block, so it
  adds to the last level only (`Phrase.calls`).

  Proved:
  - `Reads.within`: within as many calls as there is room for levels, a phrase is read as it is
    without a budget.
  - `parseWithin_eq_some`: so three calls for each level of the limit and seven more are enough to
    parse any tokens.
  - `exists_parseWithin_eq_none`: under no limit are fewer enough for all tokens.
-/

import MiniC.Proofs.Parser.Balance

namespace MiniC

/-! ## Reading with a budget -/

/-- A call that takes one unit of the budget and hands on what is left. -/
def call {α : Type} (budget : Nat) (callee : Nat → Option α) : Option α :=
  match budget with
  | 0 => none
  | left + 1 => callee left

theorem call_eq {α : Type} {callee : Nat → Option α} {x : Option α} {need budget : Nat}
    (within : ∀ {left}, need ≤ left → callee left = x) (enough : need < budget) :
    call budget callee = x := by
  cases budget with
  | zero => omega
  | succ left => exact within (Nat.le_of_lt_succ enough)

namespace Phrase

/-- Read the phrase `p` from `ts`, in a call that has `budget` left for further calls. -/
def readWithin (site : Site) (budget : Nat) :
    (p : Phrase) → (ts : List Token) → Option (Reading p ts)
  | .program, [] => some ⟨[], [], Nat.le_refl 0⟩
  | .program, t :: r => do
    let ⟨first, ts₁, h₁⟩ ← call budget (readWithin site · .statement (t :: r))
    have : ts₁.length < (t :: r).length := h₁
    let ⟨others, ts₂, h₂⟩ ← readWithin site budget .program ts₁
    some ⟨first ++ others, ts₂, by simp only [due]; omega⟩
  | .statement, [] => some ⟨[], [], Nat.le_refl 0⟩
  | .statement, t :: r =>
    if site.full then some ⟨[.fault ⟨.tooDeep t.lexeme, t.position⟩], r, Nat.le_refl _⟩
    else if t.isTypeKeyword then do
      let ⟨found, ts₁, h₁⟩ ← call budget (readWithin site · .declaration (t :: r))
      some ⟨found, ts₁, h₁⟩
    else if t.isKeyword "if" then do
      let ⟨found, ts₁, h₁⟩ ← call budget (readWithin site · .conditional (t :: r))
      some ⟨found, ts₁, h₁⟩
    else if t.isDelimiter "\x7b" then do
      let ⟨found, ts₁, h₁⟩ ← call budget (readWithin site · .block (t :: r))
      some ⟨found, ts₁, h₁⟩
    else do
      let ⟨found, ts₁, h₁⟩ ← call budget (readWithin site · .expressionStatement (t :: r))
      some ⟨found, ts₁, h₁⟩
  | .declaration, [] => some ⟨[.fault ⟨.expected .type, site.finish⟩], [], Nat.le_refl 0⟩
  | .declaration, t :: r =>
    if t.isTypeKeyword then
      let unnamed := site.expect r Token.isIdentifier .identifier
      if r.tail.head?.any (·.isOperator "=") then do
        let ⟨value, ts₁, h₁⟩ ← call budget (readWithin site · .expression r.tail.tail)
        let initial := lexemesBefore r.tail.tail ts₁
        some ⟨unnamed ++ value ++ site.expect ts₁ (·.isDelimiter ";") .declarationEnd
            ++ Finding.declaration t r initial, ts₁.tail, by
          simp only [due, List.length_tail, List.length_cons] at *; omega⟩
      else
        some ⟨unnamed ++ site.expect r.tail (·.isDelimiter ";") .declarationEnd
            ++ Finding.declaration t r none, r.tail.tail, by
          simp only [due, List.length_tail, List.length_cons]; omega⟩
    else some ⟨[.fault ⟨.expected .type, t.position⟩], r, Nat.le_refl _⟩
  | .conditional, ts => do
    let ⟨condition, ts₁, h₁⟩ ← call budget (readWithin site · .expression ts.tail.tail)
    let ⟨branch, ts₂, h₂⟩ ← call budget (readWithin site · .block ts₁.tail)
    let ⟨other, ts₃, h₃⟩ ← readWithin site budget .alternative ts₂
    have h₄ := due_le .conditional ts
    some ⟨site.expect ts (·.isKeyword "if") .ifKeyword
        ++ site.expect ts.tail (·.isDelimiter "(") .conditionOpen ++ condition
        ++ site.expect ts₁ (·.isDelimiter ")") .conditionClose ++ branch ++ other, ts₃, by
      simp only [List.length_tail] at *; omega⟩
  | .alternative, [] => some ⟨[], [], Nat.le_refl 0⟩
  | .alternative, t :: r =>
    if t.isKeyword "else" then
      if r.head?.any (·.isKeyword "if") then do
        let ⟨other, ts₁, h₁⟩ ← readWithin site budget .conditional r
        some ⟨other, ts₁, by simp only [due, List.length_cons] at *; omega⟩
      else if r.head?.any (·.isDelimiter "\x7b") then do
        let ⟨other, ts₁, h₁⟩ ← call budget (readWithin site · .block r)
        some ⟨other, ts₁, by simp only [due, List.length_cons] at *; omega⟩
      else do
        let ⟨other, ts₁, h₁⟩ ← call budget (readWithin site · .statement r)
        some ⟨other, ts₁, by simp only [due, List.length_cons] at *; omega⟩
    else some ⟨[], t :: r, Nat.le_refl _⟩
  | .block, [] =>
    some ⟨site.expect [] (·.isDelimiter "\x7b") .blockOpen
      ++ Finding.block none (site.expect [] (·.isDelimiter "\x7d") .blockClose), [],
      Nat.le_refl 0⟩
  | .block, t :: r => do
    let brace := if t.isDelimiter "\x7b" then some t else none
    let ⟨body, ts₁, h₁⟩ ← readWithin site.deeper budget .blockBody r
    some ⟨site.expect (t :: r) (·.isDelimiter "\x7b") .blockOpen
        ++ Finding.block brace (body ++ site.expect ts₁ (·.isDelimiter "\x7d") .blockClose),
      ts₁.tail, by simp only [due, List.length_tail, List.length_cons] at *; omega⟩
  | .blockBody, [] => some ⟨[], [], Nat.le_refl 0⟩
  | .blockBody, t :: r =>
    if t.isDelimiter "\x7d" then some ⟨[], t :: r, Nat.le_refl _⟩
    else do
      let ⟨first, ts₁, h₁⟩ ← call budget (readWithin site · .statement (t :: r))
      have : ts₁.length < (t :: r).length := h₁
      let ⟨others, ts₂, h₂⟩ ← readWithin site budget .blockBody ts₁
      some ⟨first ++ others, ts₂, by simp only [due] at *; omega⟩
  | .expressionStatement, ts => do
    let ⟨found, ts₁, h₁⟩ ← call budget (readWithin site · .expression ts)
    some ⟨found ++ site.expect ts₁ (·.isDelimiter ";") .expressionEnd, ts₁.tail, by
      have : due .expressionStatement ts = due .expression ts := by cases ts <;> rfl
      simp only [List.length_tail]; omega⟩
  | .expression, ts => do
    let ⟨first, ts₁, h₁⟩ ← call budget (readWithin site · .primary ts)
    let ⟨others, ts₂, h₂⟩ ← readWithin site budget .operands ts₁
    some ⟨first ++ others, ts₂, by
      have : due .expression ts = due .primary ts := by cases ts <;> rfl
      omega⟩
  | .operands, [] => some ⟨[], [], Nat.le_refl 0⟩
  | .operands, t :: r =>
    if t.isAnyOperator then do
      let ⟨first, ts₁, h₁⟩ ← call budget (readWithin site · .primary r)
      let ⟨others, ts₂, h₂⟩ ← readWithin site budget .operands ts₁
      some ⟨first ++ others, ts₂, by simp only [due, List.length_cons] at *; omega⟩
    else some ⟨[], t :: r, Nat.le_refl _⟩
  | .primary, [] => some ⟨[], [], Nat.le_refl 0⟩
  | .primary, t :: r =>
    if t.isIdentifier || t.isLiteral then some ⟨[], r, Nat.le_refl _⟩
    else if t.isDelimiter "(" then
      if site.full then some ⟨[.fault ⟨.tooDeep t.lexeme, t.position⟩], r, Nat.le_refl _⟩
      else do
        let ⟨inner, ts₁, h₁⟩ ← call budget (readWithin site.deeper · .expression r)
        some ⟨Finding.group (inner ++ site.expect ts₁ (·.isDelimiter ")") .groupClose), ts₁.tail,
          by simp only [due, List.length_tail, List.length_cons] at *; omega⟩
    else some ⟨[.fault ⟨.invalidExpression t.lexeme, t.position⟩], r, Nat.le_refl _⟩
termination_by p ts => 16 * ts.length + p.rank
decreasing_by
  all_goals simp only [rank, List.length_tail, List.length_cons] at *
  all_goals omega

/-! ## How many calls are enough -/

/-- Does a conditional or a block begin with the token? -/
def beginsLevel (t : Token) : Bool := t.isKeyword "if" || t.isDelimiter "\x7b"

/-- How many calls inside one another reading the phrase from `ts` takes at most, by the room that
there is for further levels. -/
def calls (room : Nat) : Phrase → List Token → Nat
  | .program, _ | .blockBody, _ => 3 * room + 5
  | .statement, ts => if ts.head?.any beginsLevel then 3 * room + 4 else 2 * room + 3
  | .conditional, _ | .alternative, _ => 3 * room + 3
  | .block, _ => 3 * room + 2
  | .declaration, _ | .expressionStatement, _ => 2 * room + 2
  | .expression, _ | .operands, _ => 2 * room + 1
  | .primary, _ => 2 * room

theorem calls_statement_le (room : Nat) (ts : List Token) :
    calls room .statement ts ≤ 3 * room + 4 := by
  rw [calls]
  split <;> omega

theorem le_calls_statement (room : Nat) (ts : List Token) :
    2 * room + 3 ≤ calls room .statement ts := by
  rw [calls]
  split <;> omega

theorem calls_statement_of_begins {t : Token} (begins : beginsLevel t) (room : Nat) (r : List Token) :
    calls room .statement (t :: r) = 3 * room + 4 := if_pos begins

theorem calls_statement_of_not {ts : List Token} (word : ¬ ts.head?.any (·.isKeyword "if"))
    (brace : ¬ ts.head?.any (·.isDelimiter "\x7b")) (room : Nat) :
    calls room .statement ts = 2 * room + 3 := by
  refine if_neg ?_
  cases ts <;> simp_all [beginsLevel]

end Phrase

theorem Reads.used {site : Site} {p : Phrase} {ts rest : List Token} {found : List Finding}
    (h : Reads site p ts found rest) : rest.length + p.due ts ≤ ts.length := by
  obtain ⟨rfl, rfl⟩ := h.read_eq
  exact (p.read site ts).used

/-- Within as many calls as there is room for levels, a phrase is read as it is without a budget. -/
theorem Reads.within {site : Site} {p : Phrase} {ts rest : List Token} {found : List Finding}
    (h : Reads site p ts found rest) (room : p.BeginsBlock → site.depth < site.limit) {budget : Nat}
    (enough : p.calls site.room ts ≤ budget) :
    p.readWithin site budget ts = some ⟨found, rest, h.used⟩ := by
  induction h generalizing budget with
  | programEnd | statementEnd | declarationEnd | alternativeEnd | bodyEnd | operandsEnd
  | primaryEnd => rw [Phrase.readWithin]
  | statementDeep full => rw [Phrase.readWithin, if_pos full]
  | declarationOther type => rw [Phrase.readWithin, if_neg type]
  | declarationPlain type sign =>
    rw [Phrase.readWithin, if_pos type]
    simp only [if_neg sign]
  | alternativeNone word => rw [Phrase.readWithin, if_neg word]
  | bodyClose close => rw [Phrase.readWithin, if_pos close]
  | operandsNone sign => rw [Phrase.readWithin, if_neg sign]
  | primaryAtom atom => rw [Phrase.readWithin, if_pos atom]
  | primaryDeep atom mark full => rw [Phrase.readWithin, if_neg atom, if_pos mark, if_pos full]
  | primaryOther atom mark => rw [Phrase.readWithin, if_neg atom, if_neg mark]
  | @statementDeclaration site t r _ _ full type _ ih =>
    have le := Nat.le_trans (Phrase.le_calls_statement site.room (t :: r)) enough
    rw [Phrase.readWithin, if_neg full, if_pos type, call_eq (ih nofun) le]
    rfl
  | @statementConditional site t r _ _ full type word _ ih =>
    have begins : Phrase.beginsLevel t := by rw [Phrase.beginsLevel, word]; rfl
    have lt := Site.lt_of_not_full full
    rw [Phrase.calls_statement_of_begins begins] at enough
    rw [Phrase.readWithin, if_neg full, if_neg type, if_pos word, call_eq (ih fun _ => lt) enough]
    rfl
  | @statementBlock site t r _ _ full type word brace _ ih =>
    have begins : Phrase.beginsLevel t := by rw [Phrase.beginsLevel, brace, Bool.or_true]
    have lt := Site.lt_of_not_full full
    rw [Phrase.calls_statement_of_begins begins] at enough
    rw [Phrase.readWithin, if_neg full, if_neg type, if_neg word, if_pos brace,
      call_eq (ih fun _ => lt) (Nat.lt_of_succ_lt enough)]
    rfl
  | @statementExpression site t r _ _ full type word brace _ ih =>
    have le := Nat.le_trans (Phrase.le_calls_statement site.room (t :: r)) enough
    rw [Phrase.readWithin, if_neg full, if_neg type, if_neg word, if_neg brace, call_eq (ih nofun) le]
    rfl
  | @declarationInitialized site t r _ _ type sign _ ih =>
    rw [Phrase.readWithin, if_pos type]
    simp only [if_pos sign, call_eq (ih nofun) enough]
    rfl
  | @conditional site ts _ _ _ _ _ _ _ _ _ ih ih' ih'' =>
    have lt := room trivial
    have expression : Phrase.calls site.room .expression ts < budget := by
      simp only [Phrase.calls] at enough ⊢
      omega
    rw [Phrase.readWithin, call_eq (ih nofun) expression]
    simp only [Option.bind_eq_bind, Option.bind_some, call_eq (ih' fun _ => lt) enough,
      ih'' (fun _ => lt) enough]
  | @alternativeConditional _ _ _ _ _ word word' _ ih =>
    have lt := room trivial
    rw [Phrase.readWithin, if_pos word, if_pos word', ih (fun _ => lt) enough]
    rfl
  | @alternativeBlock _ _ _ _ _ word word' brace _ ih =>
    have lt := room trivial
    rw [Phrase.readWithin, if_pos word, if_neg word', if_pos brace, call_eq (ih fun _ => lt) enough]
    rfl
  | @alternativeStatement site _ r _ _ word word' brace _ ih =>
    have more : 0 < site.room := Nat.sub_pos_of_lt (room trivial)
    have statement : Phrase.calls site.room .statement r < budget := by
      rw [Phrase.calls_statement_of_not word' brace]
      simp only [Phrase.calls] at enough ⊢
      omega
    rw [Phrase.readWithin, if_pos word, if_neg word', if_neg brace, call_eq (ih nofun) statement]
    rfl
  | @programMore site t r _ _ _ _ _ _ ih ih' =>
    have most := Phrase.calls_statement_le site.room (t :: r)
    have statement := Nat.lt_of_lt_of_le (Nat.lt_succ_of_le most) enough
    rw [Phrase.readWithin, call_eq (ih nofun) statement]
    simp only [Option.bind_eq_bind, Option.bind_some, ih' nofun enough]
  | @bodyMore site t r _ _ _ _ close _ _ ih ih' =>
    have most := Phrase.calls_statement_le site.room (t :: r)
    have statement := Nat.lt_of_lt_of_le (Nat.lt_succ_of_le most) enough
    rw [Phrase.readWithin, if_neg close, call_eq (ih nofun) statement]
    simp only [Option.bind_eq_bind, Option.bind_some, ih' nofun enough]
  | @block site ts found ts₁ body ih =>
    have more : 0 < site.room := Nat.sub_pos_of_lt (room trivial)
    have inside : Phrase.calls site.deeper.room .blockBody ts.tail ≤ budget := by
      simp only [Phrase.calls, Site.room_deeper] at enough ⊢
      omega
    cases ts with
    | nil =>
      rw [List.tail_nil] at body
      cases body
      rw [Phrase.readWithin]
      rfl
    | cons t r =>
      have inner : Phrase.readWithin site.deeper budget .blockBody r = some ⟨found, ts₁, body.used⟩ :=
        ih nofun inside
      rw [Phrase.readWithin]
      simp only [inner]
      rfl
  | expressionStatement _ ih =>
    rw [Phrase.readWithin, call_eq (ih nofun) enough]
    rfl
  | expression _ _ ih ih' =>
    rw [Phrase.readWithin, call_eq (ih nofun) enough]
    simp only [Option.bind_eq_bind, Option.bind_some, ih' nofun enough]
  | operandsMore sign _ _ ih ih' =>
    rw [Phrase.readWithin, if_pos sign, call_eq (ih nofun) enough]
    simp only [Option.bind_eq_bind, Option.bind_some, ih' nofun enough]
  | @primaryGroup site _ r _ _ atom mark full _ ih =>
    have more : 0 < site.room := Nat.sub_pos_of_lt (Site.lt_of_not_full full)
    have inside : Phrase.calls site.deeper.room .expression r < budget := by
      simp only [Phrase.calls, Site.room_deeper] at enough ⊢
      omega
    rw [Phrase.readWithin, if_neg atom, if_pos mark, if_neg full, call_eq (ih nofun) inside]
    rfl

/-! ## Parsing with a budget -/

namespace Parser

/-- Read a phrase at the place of the parser, by a call. -/
def readWithin (budget : Nat) (p : Parser) (phrase : Phrase) : Option Parser :=
  (call budget (phrase.readWithin p.site · p.rest)).map fun reading =>
    { p.record reading.found with offset := p.tokens.length - reading.rest.length }

/-- Read the program that is left, by a call, and report what has been found in all. -/
def parseWithin (budget : Nat) (p : Parser) : Option Parser :=
  (call budget (p.readWithin · .program)).map fun p =>
    { p with
      events := p.events ++ [.parsed p.tokens.length p.register.declarations.length
        p.errors.length p.register.errors.length] }

theorem readWithin_eq {p : Parser} {phrase : Phrase} (room : phrase.BeginsBlock → p.nesting < p.limit)
    {budget : Nat} (enough : phrase.calls p.site.room p.rest < budget) :
    p.readWithin budget phrase = some (p.read phrase) := by
  rw [readWithin, call_eq ((reads_read p.site phrase p.rest).within room) enough]
  rfl

theorem parseWithin_eq {p : Parser} {budget : Nat} (enough : 3 * p.site.room + 7 ≤ budget) :
    p.parseWithin budget = some p.parse := by
  have room : Phrase.program.BeginsBlock → p.nesting < p.limit := nofun
  rw [parseWithin, call_eq (readWithin_eq room) enough]
  rfl

end Parser

/-- Parse `tokens` under a limit that is in force, by a call. -/
def parseWithin (budget : Nat) (tokens : List Token) (limit : Nat) : Option Parsed :=
  ((Parser.start tokens limit []).parseWithin budget).map Parser.result

/-- Three calls for each level of the limit and seven more are enough to parse any tokens, however
many conditionals, operators and statements stand one after another. -/
theorem parseWithin_eq_some (tokens : List Token) (limit : Nat) :
    parseWithin (3 * limit + 7) tokens limit = some (parse tokens limit) := by
  have enough : 3 * (Parser.start tokens limit []).site.room + 7 ≤ 3 * limit + 7 := Nat.le_refl _
  rw [parseWithin, Parser.parseWithin_eq enough]
  rfl

/-! ## No fewer calls are enough -/

namespace Deepest

/-- A conditional up to the brace of its block. -/
def opening : List Token :=
  [⟨.keyword, "if", .start⟩, ⟨.delimiter, "(", .start⟩, ⟨.identifier, "a", .start⟩,
    ⟨.delimiter, ")", .start⟩, ⟨.delimiter, "\x7b", .start⟩]

/-- The end of that block, and behind `else` an expression with a parenthesis. -/
def ending : List Token :=
  [⟨.delimiter, "\x7d", .start⟩, ⟨.keyword, "else", .start⟩, ⟨.delimiter, "(", .start⟩,
    ⟨.identifier, "a", .start⟩]

/-- Conditionals, `n` of them each in the block of the one before it. -/
def nested : Nat → List Token
  | 0 => opening ++ ending
  | n + 1 => opening ++ nested n

/-- A statement has three calls more than it has left for the statements in its block. -/
theorem statement_opening {site : Site} (more : ¬ site.full) {budget : Nat} {r : List Token}
    (fails : Phrase.blockBody.readWithin site.deeper (budget + 1) r = none) :
    Phrase.statement.readWithin site (budget + 3) (opening ++ r) = none := by
  simp +decide [opening, Phrase.readWithin, more, call, Token.isKeyword, Token.isDelimiter, fails]

theorem exists_nested_eq (n : Nat) : ∃ r, nested n = ⟨.keyword, "if", .start⟩ :: r := by
  cases n <;> exact ⟨_, rfl⟩

/-- A block or a program has one call more than it has left for its first statement. -/
theorem body_nested {site : Site} {budget n : Nat}
    (fails : Phrase.statement.readWithin site budget (nested n) = none) :
    Phrase.blockBody.readWithin site (budget + 1) (nested n) = none ∧
      Phrase.program.readWithin site (budget + 1) (nested n) = none := by
  obtain ⟨r, start⟩ := exists_nested_eq n
  have word : ¬ Token.isDelimiter ⟨.keyword, "if", .start⟩ "\x7d" := by decide
  rw [start] at fails ⊢
  constructor
  · rw [Phrase.readWithin, if_neg word, call, fails]
    rfl
  · rw [Phrase.readWithin, call, fails]
    rfl

/-- The last level takes seven calls, and every level around it three. -/
theorem statement_nested {site : Site} {n : Nat} (room : site.room = n + 1) :
    Phrase.statement.readWithin site (3 * n + 6) (nested n) = none := by
  have more : ¬ site.full := by simp [Site.room_eq_zero_iff, room]
  induction n generalizing site with
  | zero =>
    simp +decide [nested, opening, ending, Phrase.readWithin, more, call, Token.isKeyword,
      Token.isDelimiter]
  | succ n ih =>
    have inner : site.deeper.room = n + 1 := by rw [Site.room_deeper, room]; rfl
    have more' : ¬ site.deeper.full := by simp [Site.room_eq_zero_iff, inner]
    exact statement_opening more (body_nested (ih inner more')).1

end Deepest

/-- With one call less there are tokens, under every limit, that cannot be parsed. -/
theorem exists_parseWithin_eq_none (limit : Nat) :
    ∃ tokens, parseWithin (3 * (limit + 1) + 6) tokens (limit + 1) = none := by
  refine ⟨Deepest.nested limit, ?_⟩
  let p := Parser.start (Deepest.nested limit) (limit + 1) []
  have statement : Phrase.statement.readWithin p.site (3 * limit + 6) p.rest = none :=
    Deepest.statement_nested rfl
  have program : p.readWithin (3 * limit + 8) .program = none :=
    congrArg (Option.map _) (Deepest.body_nested statement).2
  have whole : p.parseWithin (3 * limit + 9) = none := congrArg (Option.map _) program
  exact congrArg (Option.map Parser.result) whole

end MiniC
