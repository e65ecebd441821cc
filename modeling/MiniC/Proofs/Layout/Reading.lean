/-
  MiniC.Proofs.Layout.Reading — reading the same tokens at other places.

  Reading looks at kinds and lexemes only, and hands positions on. So the findings in moved
  tokens are the findings, moved (`Reads.move`), and so are the variables registered
  (`allVariables_move`); two of these clash after a move that can be taken back exactly where
  they did before it (`Variable.clash_move_iff`). And no position is made up: a map that leaves
  the positions of the tokens alone and moves all others (`Position.stir`) moves nothing that is
  found, so each fault and each variable stands at a token (`position_mem_of_fault`,
  `position_mem_of_variable`).
-/

import MiniC.Proofs.Layout.Tokens
import MiniC.Proofs.Parser.Scoping

namespace MiniC

/-! ## Moving findings -/

def SyntaxError.move (f : Position → Position) (e : SyntaxError) : SyntaxError :=
  { e with position := f e.position }

def Site.move (f : Position → Position) (site : Site) : Site := { site with finish := f site.finish }

/-- The finding in tokens that have been moved. -/
def Finding.move (f : Position → Position) : Finding → Finding
  | .fault e => .fault (e.move f)
  | .opened brace => .opened (brace.map (Token.move f))
  | .closed => .closed
  | .descended => .descended
  | .ascended => .ascended
  | .declared type name initial => .declared (type.move f) (name.move f) initial

section
variable (f : Position → Position)

theorem head?_any_move {wanted : Token → Bool} (blind : ∀ t, wanted (t.move f) = wanted t)
    (ts : List Token) : (ts.map (Token.move f)).head?.any wanted = ts.head?.any wanted := by
  cases ts with
  | nil => rfl
  | cons t r => exact blind t

namespace Finding

theorem map_move_expect {wanted : Token → Bool} (blind : ∀ t, wanted (t.move f) = wanted t)
    (site : Site) (ts : List Token) (what : Expectation) :
    (site.expect ts wanted what).map (Finding.move f)
      = (site.move f).expect (ts.map (Token.move f)) wanted what := by
  have place : (site.move f).place (ts.map (Token.move f)) = f (site.place ts) := by
    cases ts <;> rfl
  unfold Site.expect
  rw [head?_any_move f blind, place]
  split <;> rfl

@[simp] theorem map_move_expect_delimiter (site : Site) (ts : List Token) (mark : String)
    (what : Expectation) :
    (site.expect ts (·.isDelimiter mark) what).map (Finding.move f)
      = (site.move f).expect (ts.map (Token.move f)) (·.isDelimiter mark) what :=
  map_move_expect f (fun _ => rfl) site ts what

@[simp] theorem map_move_expect_keyword (site : Site) (ts : List Token) (word : String)
    (what : Expectation) :
    (site.expect ts (·.isKeyword word) what).map (Finding.move f)
      = (site.move f).expect (ts.map (Token.move f)) (·.isKeyword word) what :=
  map_move_expect f (fun _ => rfl) site ts what

@[simp] theorem map_move_expect_identifier (site : Site) (ts : List Token) (what : Expectation) :
    (site.expect ts Token.isIdentifier what).map (Finding.move f)
      = (site.move f).expect (ts.map (Token.move f)) Token.isIdentifier what :=
  map_move_expect f (fun _ => rfl) site ts what

@[simp] theorem map_move_block (brace : Option Token) (inside : List Finding) :
    (block brace inside).map (Finding.move f)
      = block (brace.map (Token.move f)) (inside.map (Finding.move f)) := by
  simp [block, Finding.move]

@[simp] theorem map_move_group (inside : List Finding) :
    (group inside).map (Finding.move f) = group (inside.map (Finding.move f)) := by
  simp [group, Finding.move]

@[simp] theorem map_move_declaration (type : Token) (ts : List Token) (initial : Option String) :
    (declaration type ts initial).map (Finding.move f)
      = declaration (type.move f) (ts.map (Token.move f)) initial := by
  cases ts with
  | nil => rfl
  | cons t r =>
    simp only [declaration, List.map_cons]
    by_cases h : t.isIdentifier
    · rw [if_pos h, if_pos (show (t.move f).isIdentifier from h)]
      rfl
    · rw [if_neg h, if_neg (show ¬ (t.move f).isIdentifier from h)]
      rfl

end Finding

theorem lexemesBefore_move (ts rest : List Token) :
    lexemesBefore (ts.map (Token.move f)) (rest.map (Token.move f)) = lexemesBefore ts rest := by
  have lexemes (used : List Token) :
      (used.map (Token.move f)).map (·.lexeme) = used.map (·.lexeme) := List.map_map
  unfold lexemesBefore
  rw [List.length_map, List.length_map, ← List.map_take]
  cases ts.take (ts.length - rest.length) with
  | nil => rfl
  | cons t r => exact congrArg (fun words => some (" ".intercalate words)) (lexemes (t :: r))

variable {f}

/-- Moved tokens are read in the same way. -/
theorem Reads.move {site : Site} {p : Phrase} {ts rest : List Token} {found : List Finding}
    (h : Reads site p ts found rest) :
    Reads (site.move f) p (ts.map (Token.move f)) (found.map (Finding.move f))
      (rest.map (Token.move f)) := by
  -- Each rule asks about the kind and the lexeme of the next tokens, which a move leaves alone,
  -- so it applies again; what it notes is noted moved.
  induction h with
  | programEnd => exact .programEnd _
  | programMore _ _ first others => simpa using first.programMore others
  | statementEnd => exact .statementEnd _
  | statementDeep full => exact .statementDeep full
  | statementDeclaration room type _ inner => exact .statementDeclaration room type inner
  | statementConditional room type word _ inner => exact .statementConditional room type word inner
  | statementBlock room type word brace _ inner => exact .statementBlock room type word brace inner
  | statementExpression room type word brace _ inner =>
    exact .statementExpression room type word brace inner
  | declarationEnd => exact .declarationEnd _
  | declarationOther type => exact .declarationOther type
  | @declarationInitialized site t r value ts₁ type sign _ inner =>
    have sign' : (r.map (Token.move f)).tail.head?.any (·.isOperator "=") := by
      rw [← List.map_tail, head?_any_move f fun _ => rfl]
      exact sign
    have initial := lexemesBefore_move f r.tail.tail ts₁
    rw [List.map_tail, List.map_tail] at inner initial
    simpa [initial] using Reads.declarationInitialized (t := t.move f) type sign' inner
  | @declarationPlain site t r type sign =>
    have sign' : ¬ (r.map (Token.move f)).tail.head?.any (·.isOperator "=") := by
      rw [← List.map_tail, head?_any_move f fun _ => rfl]
      exact sign
    simpa using Reads.declarationPlain (t := t.move f) type sign'
  | conditional _ _ _ condition branch other =>
    rw [List.map_tail, List.map_tail] at condition
    rw [List.map_tail] at branch
    simpa using Reads.conditional condition branch other
  | alternativeEnd => exact .alternativeEnd _
  | alternativeNone word => exact .alternativeNone word
  | @alternativeConditional site t r found ts₁ word word' _ other =>
    rw [← head?_any_move f fun _ => rfl] at word'
    exact .alternativeConditional word word' other
  | @alternativeBlock site t r found ts₁ word word' brace _ other =>
    rw [← head?_any_move f fun _ => rfl] at word' brace
    exact .alternativeBlock word word' brace other
  | @alternativeStatement site t r found ts₁ word word' brace _ other =>
    rw [← head?_any_move f fun _ => rfl] at word' brace
    exact .alternativeStatement word word' brace other
  | @block site ts body ts₁ _ ih =>
    have brace : (ts.head?.map (Token.move f)).filter (·.isDelimiter "\x7b")
        = (ts.head?.filter (·.isDelimiter "\x7b")).map (Token.move f) := Option.filter_map ..
    rw [List.map_tail] at ih
    have read : Reads (site.move f) .block (ts.map (Token.move f)) _ _ := .block ih
    simpa [brace] using read
  | bodyEnd => exact .bodyEnd _
  | bodyClose close => exact .bodyClose close
  | @bodyMore site t r first others ts₁ ts₂ close _ _ ih ih' =>
    simpa using Reads.bodyMore (t := t.move f) close ih ih'
  | expressionStatement _ found => simpa using Reads.expressionStatement found
  | expression _ _ first others => simpa using Reads.expression first others
  | operandsEnd => exact .operandsEnd _
  | operandsNone sign => exact .operandsNone sign
  | @operandsMore site t r first ts₁ others ts₂ sign _ _ ih ih' =>
    simpa using Reads.operandsMore (t := t.move f) sign ih ih'
  | primaryEnd => exact .primaryEnd _
  | primaryAtom atom => exact .primaryAtom atom
  | primaryDeep atom mark full => exact .primaryDeep atom mark full
  | @primaryGroup site t r inner ts₁ atom mark room _ ih =>
    have room : ¬ (site.move f).full := room
    simpa using Reads.primaryGroup (t := t.move f) atom mark room ih
  | primaryOther atom mark => exact .primaryOther atom mark

/-- What is found in moved tokens is what is found in the tokens, moved. -/
theorem findings_move (f : Position → Position) (ts : List Token) (limit : Nat) :
    findings (ts.map (Token.move f)) limit = (findings ts limit).map (Finding.move f) := by
  by_cases empty : ts = []
  · subst empty
    rw [List.map_nil, findings, Phrase.read]
    rfl
  · have site : (Site.ofProgram ts limit).move f = .ofProgram (ts.map (Token.move f)) limit := by
      have last := List.getLast?_eq_some_getLast empty
      have last' : (ts.map (Token.move f)).getLast? = some ((ts.getLast empty).move f) := by
        rw [List.getLast?_map, last]
        rfl
      simp [Site.ofProgram, Parser.site, Parser.start, Site.move, last, last']
    have moved := (reads_read (.ofProgram ts limit) .program ts).move (f := f)
    rw [site] at moved
    exact moved.read_eq.1

end

/-! ## Moving faults and variables -/

section
variable (f : Position → Position)

theorem faults_move (found : List Finding) :
    faults (found.map (Finding.move f)) = (faults found).map (SyntaxError.move f) := by
  induction found with
  | nil => rfl
  | cons x found ih =>
    rw [List.map_cons, faults_cons, faults_cons, List.map_append, ih]
    cases x <;> rfl

def Block.move (b : Block) : Block := ⟨b.ordinal, b.brace.map (Token.move f)⟩

def Variable.move (v : Variable) : Variable :=
  ⟨v.block.map (Block.move f), v.type.move f, v.name.move f, v.initial⟩

theorem registered_move (blocks : List Block) (begun : Nat) (found : List Finding) :
    registered (blocks.map (Block.move f)) begun (found.map (Finding.move f))
      = (registered blocks begun found).map (Variable.move f) := by
  induction found generalizing blocks begun with
  | nil => rfl
  | cons x found ih =>
    cases x with
    | opened brace => exact ih (⟨begun, brace⟩ :: blocks) (begun + 1)
    | closed =>
      have tail := ih blocks.tail begun
      rw [List.map_tail] at tail
      exact tail
    | declared type name initial =>
      have head : (blocks.map (Block.move f)).head? = blocks.head?.map (Block.move f) :=
        List.head?_map
      rw [List.map_cons, Finding.move, registered, registered, ih, head]
      rfl
    | fault | descended | ascended => exact ih blocks begun

/-- The variables of moved tokens are those of the tokens, moved. -/
theorem allVariables_move (ts : List Token) (limit : Nat) :
    allVariables (ts.map (Token.move f)) limit = (allVariables ts limit).map (Variable.move f) := by
  unfold allVariables
  rw [findings_move]
  exact registered_move f [] 0 (findings ts limit)

end

namespace Variable

theorem Clash.move {v w : Variable} (h : v.Clash w) (f : Position → Position) :
    (v.move f).Clash (w.move f) := by
  have unopened (u : Variable) : (u.move f).unopened = u.unopened := by
    unfold Variable.unopened Variable.move
    cases u.block with
    | none => rfl
    | some b => cases h : b.brace <;> simp [Block.move, h]
  obtain ⟨names, blocks⟩ := h
  refine ⟨names, ?_⟩
  rw [unopened, unopened]
  exact blocks.imp_left (congrArg (Option.map (Block.move f)))

/-- A move that can be taken back neither makes clashes nor ends any. -/
theorem clash_move_iff {f g : Position → Position} {v w : Variable} (hv : (v.move f).move g = v)
    (hw : (w.move f).move g = w) : (v.move f).Clash (w.move f) ↔ v.Clash w := by
  constructor
  · intro h
    have back := h.move g
    rwa [hv, hw] at back
  · exact fun h => h.move f

end Variable

/-! ## Where things stand -/

/-- Every fault stands at a token. -/
theorem position_mem_of_fault {ts : List Token} {limit : Nat} {e : SyntaxError}
    (h : e ∈ faults (findings ts limit)) : e.position ∈ ts.map (·.position) := by
  have kept : (faults (findings ts limit)).map (SyntaxError.move (Position.stir ts))
      = faults (findings ts limit) := by
    rw [← faults_move, ← findings_move, move_stir]
  exact Position.mem_of_stir_eq (congrArg (·.position) (eq_of_map_eq kept e h))

/-- Every variable stands at a token, and so does the brace of its block. -/
theorem position_mem_of_variable {ts : List Token} {limit : Nat} {v : Variable}
    (h : v ∈ allVariables ts limit) :
    v.name.position ∈ ts.map (·.position) ∧
      ∀ b brace, v.block = some b → b.brace = some brace → brace.position ∈ ts.map (·.position) := by
  have kept : (allVariables ts limit).map (Variable.move (Position.stir ts))
      = allVariables ts limit := by
    rw [← allVariables_move, move_stir]
  have same : v.move (Position.stir ts) = v := eq_of_map_eq kept v h
  constructor
  · exact Position.mem_of_stir_eq (congrArg (·.name.position) same)
  · intro b brace hb hbrace
    have block : v.block.map (Block.move (Position.stir ts)) = v.block := congrArg (·.block) same
    rw [hb] at block
    have braces : b.brace.map (Token.move (Position.stir ts)) = b.brace :=
      congrArg (·.brace) (Option.some.inj block)
    rw [hbrace] at braces
    exact Position.mem_of_stir_eq (congrArg (·.position) (Option.some.inj braces))

end MiniC
