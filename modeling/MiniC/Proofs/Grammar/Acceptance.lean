/-
  MiniC.Proofs.Grammar.Acceptance — parsing accepts the grammar.

  Proved:
  - `SyntaxTree.reads`: the tokens of a tree that keeps to the limit are read without a
    fault, and what is found is what the tree holds; what follows must be no token that
    would continue the phrase (`Phrase.Follows`).
  - `Reads.tree_or_cut`: what is read without a fault is a tree that keeps to the limit,
    unless the input ends where a statement or a primary is called for (`Phrase.Cut`):
    there nothing is read, and nothing is noted. A place that calls for a closing token
    notes that one instead, so a whole program is cut only right after `else`.
  - `parse_errors_eq_nil_iff`: so a token list that does not end with `else` is parsed
    without a syntax error exactly if it is a program that keeps to the limit.
-/

import MiniC.Proofs.Grammar
import MiniC.Proofs.Parser.Findings
import MiniC.Proofs.Parser.Reads

namespace MiniC

/-! ## A tree is read as it stands -/

namespace Reads

variable {site : Site} {t : Token} {r ts ts₁ ts₂ rest : List Token} {found first others : List Finding}

/-- What is called for and stands there is passed without a finding. -/
theorem expect_cons {wanted : Token → Bool} {what : Expectation} (h : wanted t) :
    site.expect (t :: r) wanted what = [] := by
  simp [Site.expect, h]

theorem statement_of_declaration (room : ¬ site.full) (h : ts.head?.any Token.isTypeKeyword)
    (inner : Reads site .declaration ts found rest) : Reads site .statement ts found rest := by
  obtain ⟨t, r, rfl, type⟩ := exists_cons_of_head?_any h
  exact .statementDeclaration room type inner

theorem statement_of_block (room : ¬ site.full) (h : ts.head?.any (·.isDelimiter "\x7b"))
    (inner : Reads site .block ts found rest) : Reads site .statement ts found rest := by
  obtain ⟨t, r, rfl, brace⟩ := exists_cons_of_head?_any h
  exact .statementBlock room (Token.not_isTypeKeyword_of_isDelimiter brace)
    (Token.not_isKeyword_of_isDelimiter brace) brace inner

theorem statement_of_conditional (room : ¬ site.full) (h : ts.head?.any (·.isKeyword "if"))
    (inner : Reads site .conditional ts found rest) : Reads site .statement ts found rest := by
  obtain ⟨t, r, rfl, word⟩ := exists_cons_of_head?_any h
  exact .statementConditional room (Token.not_isTypeKeyword_of_isKeyword word (by decide)) word inner

theorem statement_of_expression (room : ¬ site.full) (h : ts.head?.any Token.startsExpression)
    (inner : Reads site .expressionStatement ts found rest) : Reads site .statement ts found rest := by
  obtain ⟨t, r, rfl, start⟩ := exists_cons_of_head?_any h
  exact .statementExpression room (Token.not_isTypeKeyword_of_startsExpression start)
    (Token.not_isKeyword_of_startsExpression start (by decide))
    (Token.not_isDelimiter_of_startsExpression start (by decide)) inner

theorem body_of_statement (h : ts.head?.any Token.startsStatement)
    (head : Reads site .statement ts first ts₁) (tail : Reads site .blockBody ts₁ others ts₂) :
    Reads site .blockBody ts (first ++ others) ts₂ := by
  obtain ⟨t, r, rfl, start⟩ := exists_cons_of_head?_any h
  exact .bodyMore (Token.startsStatement_stops start).2 head tail

/-- What stands after `else` may be read as a statement of any form: the forms that are
looked for first are read alike. -/
theorem alternative_of_statement (word : t.isKeyword "else") (room : ¬ site.full) (h : r ≠ [])
    (inner : Reads site .statement r found rest) : Reads site .alternative (t :: r) found rest := by
  cases inner with
  | statementEnd => exact absurd rfl h
  | statementDeep full => exact absurd full room
  | statementDeclaration _ type inner =>
    have hif : ¬ Token.isKeyword _ "if" := fun hk =>
      Token.not_isTypeKeyword_of_isKeyword hk (by decide) type
    exact .alternativeStatement word hif (Token.not_isDelimiter_of_isTypeKeyword type)
      (.statementDeclaration room type inner)
  | statementConditional _ _ word' inner => exact .alternativeConditional word word' inner
  | statementBlock _ _ word' brace inner => exact .alternativeBlock word word' brace inner
  | statementExpression _ type word' brace inner =>
    exact .alternativeStatement word word' brace (.statementExpression room type word' brace inner)

end Reads

/-- A statement that keeps to the limit has room for one. -/
theorem SyntaxTree.Fits.lt {limit d : Nat} {tree : SyntaxTree .statement} (h : tree.Fits limit d) :
    d < limit := by
  cases tree <;> exact h.1

/-- Statements that are read to the end of the input are a program. -/
theorem Reads.program_of_body {site : Site} {ts : List Token} {found : List Finding}
    (h : Reads site .blockBody ts found []) : Reads site .program ts found [] := by
  generalize hp : Phrase.blockBody = p at h
  generalize hr : ([] : List Token) = rest at h
  induction h with
  | bodyEnd => exact .programEnd _
  | bodyMore _ first _ _ ih =>
    subst hr
    exact .programMore first (ih rfl rfl)
  | bodyClose => cases hr
  | _ => cases hp

theorem lexemesBefore_append {ts rest : List Token} (h : ts ≠ []) :
    lexemesBefore (ts ++ rest) rest = some (spaced ts) := by
  have used : (ts ++ rest).take ((ts ++ rest).length - rest.length) = ts := by
    simp
  rw [lexemesBefore, used]
  cases ts with
  | nil => exact absurd rfl h
  | cons t r => rfl

/-- Reading the tokens of a tree that keeps to the limit finds what the tree holds, and
leaves what follows. -/
theorem SyntaxTree.reads {p : Phrase} (tree : SyntaxTree p) (site : Site) (rest : List Token)
    (fits : tree.Fits site.limit site.depth) (follows : p.Follows rest) :
    Reads site p (tree.tokens ++ rest) tree.findings rest := by
  -- What follows a part is the next part, or what follows the whole. Each time a token that
  -- would continue the part is of another class than what stands there.
  induction tree generalizing site rest with
  | noStatement =>
    cases rest with
    | nil => exact .bodyEnd site
    | cons t r => exact .bodyClose follows
  | statements first others ih ih' =>
    rw [tokens, List.append_assoc]
    exact .body_of_statement (head?_append_any first.starts)
      (ih site _ fits.1 (others.follows_statement follows)) (ih' site rest fits.2 follows)
  | ofDeclaration inner ih =>
    have room := Site.not_full_of_lt fits.1
    exact .statement_of_declaration room (head?_append_any inner.starts) (ih site rest fits.2 trivial)
  | ofConditional inner ih =>
    have room := Site.not_full_of_lt fits.1
    exact .statement_of_conditional room (head?_append_any inner.starts) (ih site rest fits.2 follows)
  | ofBlock inner ih =>
    have room := Site.not_full_of_lt fits.1
    exact .statement_of_block room (head?_append_any inner.starts) (ih site rest fits.2 trivial)
  | ofExpression inner ih =>
    have room := Site.not_full_of_lt fits.1
    exact .statement_of_expression room (head?_append_any inner.starts) (ih site rest fits.2 trivial)
  | plain type name stop =>
    have sign : ¬ (stop.val :: rest).head?.any (·.isOperator "=") := by
      have := Token.not_isAnyOperator_of_isDelimiter stop.property
      simp [Token.isOperator, this]
    have h : Reads site .declaration (type.val :: name.val :: stop.val :: rest) _ _ :=
      .declarationPlain type.property sign
    rw [Reads.expect_cons name.property, List.tail_cons, Reads.expect_cons stop.property] at h
    simpa [tokens, findings, Finding.declaration, name.property] using h
  | initialized type name sign value stop ih =>
    have inner := ih site (stop.val :: rest) fits (Token.not_isAnyOperator_of_isDelimiter stop.property)
    have h := Reads.declarationInitialized
      (r := name.val :: sign.val :: (value.tokens ++ stop.val :: rest)) type.property sign.property inner
    rw [Reads.expect_cons name.property, Reads.expect_cons stop.property, List.tail_cons, List.tail_cons,
      lexemesBefore_append value.tokens_ne_nil] at h
    simpa [tokens, findings, Finding.declaration, name.property] using h
  | conditional word left condition right branch other ih ih' ih'' =>
    have h : Reads site .conditional (word.val :: left.val ::
        (condition.tokens ++ right.val :: (branch.tokens ++ (other.tokens ++ rest)))) _ rest :=
      .conditional (ih site _ fits.1 (Token.not_isAnyOperator_of_isDelimiter right.property))
        (ih' site _ fits.2.1 trivial) (ih'' site rest fits.2.2 follows)
    rw [Reads.expect_cons word.property, List.tail_cons, Reads.expect_cons left.property,
      Reads.expect_cons right.property] at h
    simpa [tokens, findings] using h
  | noAlternative =>
    cases rest with
    | nil => exact .alternativeEnd site
    | cons t r => exact .alternativeNone follows
  | elseBlock word inner ih =>
    have start : (inner.tokens ++ rest).head?.any (·.isDelimiter "\x7b") :=
      head?_append_any inner.starts
    obtain ⟨t, r, hts, brace⟩ := exists_cons_of_head?_any start
    have inner := ih site rest fits trivial
    rw [hts] at inner
    rw [tokens, List.cons_append, hts]
    exact .alternativeBlock word.property (Token.not_isKeyword_of_isDelimiter brace) brace inner
  | elseStatement word inner ih =>
    have room := Site.not_full_of_lt (Fits.lt fits)
    have start : (inner.tokens ++ rest).head?.any Token.startsStatement :=
      head?_append_any inner.starts
    obtain ⟨t, r, hts, -⟩ := exists_cons_of_head?_any start
    have more : inner.tokens ++ rest ≠ [] := by rw [hts]; exact List.cons_ne_nil t r
    exact .alternative_of_statement word.property room more (ih site rest fits follows)
  | block left body right ih =>
    have h : Reads site .block (left.val :: (body.tokens ++ right.val :: rest)) _ _ :=
      .block (ih site.deeper (right.val :: rest) fits right.property)
    rw [Reads.expect_cons left.property, Reads.expect_cons right.property] at h
    simpa [tokens, findings, Option.filter, left.property] using h
  | expressionStatement inner stop ih =>
    have h := Reads.expressionStatement
      (ih site (stop.val :: rest) fits (Token.not_isAnyOperator_of_isDelimiter stop.property))
    rw [Reads.expect_cons stop.property] at h
    simpa [tokens, findings] using h
  | expression first others ih ih' =>
    rw [tokens, List.append_assoc]
    exact .expression (ih site _ fits.1 trivial) (ih' site rest fits.2 follows)
  | noOperand =>
    cases rest with
    | nil => exact .operandsEnd site
    | cons t r => exact .operandsNone follows
  | operands sign first others ih ih' =>
    rw [tokens, List.cons_append, List.append_assoc]
    exact .operandsMore sign.property (ih site _ fits.1 trivial) (ih' site rest fits.2 follows)
  | atom t => exact .primaryAtom t.property
  | group left inner right ih =>
    have room := Site.not_full_of_lt fits.1
    have h := Reads.primaryGroup (Token.not_isAtom_of_isDelimiter left.property) left.property room
      (ih site.deeper (right.val :: rest) fits.2 (Token.not_isAnyOperator_of_isDelimiter right.property))
    rw [Reads.expect_cons right.property] at h
    simpa [tokens, findings] using h
  | program body ih =>
    cases follows
    exact (ih site [] fits rfl).program_of_body

/-! ## What is read without a fault -/

def EndsWithElse (ts : List Token) : Prop := ts.getLast?.any (·.isKeyword "else")

theorem EndsWithElse.append {ts : List Token} (h : EndsWithElse ts) (front : List Token) :
    EndsWithElse (front ++ ts) := by
  unfold EndsWithElse at h ⊢
  cases hl : ts.getLast? with
  | none => simp [hl] at h
  | some t => rw [hl] at h; rw [List.getLast?_append, hl]; exact h

theorem EndsWithElse.cons {ts : List Token} (h : EndsWithElse ts) (t : Token) :
    EndsWithElse (t :: ts) := h.append [t]

namespace Phrase

/-- How the input may end inside the phrase without a fault. -/
def Cut : Phrase → List Token → Prop
  | .statement, ts => ts = [] ∨ EndsWithElse ts
  | .program, ts | .blockBody, ts | .conditional, ts | .alternative, ts => EndsWithElse ts
  | .expression, _ | .operands, _ | .primary, _ => True
  | .declaration, _ | .block, _ | .expressionStatement, _ => False

/-- Conditionals and their open ends are read as part of a statement, which has room. -/
def HasRoom (site : Site) : Phrase → Prop
  | .conditional | .alternative => site.depth < site.limit
  | _ => True

end Phrase

/-- What is read without a fault is a tree, or is cut short by the end of the input. -/
theorem Reads.tree_or_cut {site : Site} {p : Phrase} {ts rest : List Token} {found : List Finding}
    (h : Reads site p ts found rest) (room : p.HasRoom site) (clean : faults found = []) :
    (∃ tree : SyntaxTree p, tree.tokens ++ rest = ts ∧ tree.Fits site.limit site.depth)
      ∨ (rest = [] ∧ p.Cut ts) := by
  -- A part that is cut leaves nothing. What calls for a token after it would note a fault, so
  -- the cut passes up only through phrases that end with the part.
  induction h with
  | programEnd => exact .inl ⟨.program .noStatement, rfl, trivial⟩
  | @programMore site t r first others ts₁ ts₂ _ more ih ih' =>
    simp only [faults_append, List.append_eq_nil_iff] at clean
    rcases ih trivial clean.1 with ⟨head, hts, fits⟩ | ⟨rfl, cut⟩
    · rcases ih' trivial clean.2 with ⟨⟨body⟩, rfl, fits'⟩ | ⟨rfl, cut⟩
      · exact .inl ⟨.program (.statements head body), by rw [← hts]; exact List.append_assoc ..,
          fits, fits'⟩
      · exact .inr ⟨rfl, hts ▸ cut.append _⟩
    · cases more
      exact .inr ⟨rfl, cut.resolve_left (List.cons_ne_nil t r)⟩
  | statementEnd => exact .inr ⟨rfl, .inl rfl⟩
  | statementDeep | declarationEnd | declarationOther | primaryDeep | primaryOther => cases clean
  | statementDeclaration full _ _ ih =>
    obtain ⟨tree, hts, fits⟩ := (ih trivial clean).resolve_right fun cut => cut.2
    exact .inl ⟨.ofDeclaration tree, hts, Site.lt_of_not_full full, fits⟩
  | statementConditional full _ _ _ ih =>
    have lt := Site.lt_of_not_full full
    rcases ih lt clean with ⟨tree, hts, fits⟩ | ⟨rfl, cut⟩
    · exact .inl ⟨.ofConditional tree, hts, lt, fits⟩
    · exact .inr ⟨rfl, .inr cut⟩
  | statementBlock full _ _ _ _ ih =>
    obtain ⟨tree, hts, fits⟩ := (ih trivial clean).resolve_right fun cut => cut.2
    exact .inl ⟨.ofBlock tree, hts, Site.lt_of_not_full full, fits⟩
  | statementExpression full _ _ _ _ ih =>
    obtain ⟨tree, hts, fits⟩ := (ih trivial clean).resolve_right fun cut => cut.2
    exact .inl ⟨.ofExpression tree, hts, Site.lt_of_not_full full, fits⟩
  | @declarationInitialized site t r value ts₁ type sign _ ih =>
    simp only [faults_append, List.append_eq_nil_iff, faults_expect_eq_nil] at clean
    obtain ⟨⟨⟨name, clean⟩, stop⟩, -⟩ := clean
    obtain ⟨n, r, rfl, name⟩ := exists_cons_of_head?_any name
    obtain ⟨e, r, rfl, sign⟩ := exists_cons_of_head?_any sign
    obtain ⟨s, ts₂, rfl, stop⟩ := exists_cons_of_head?_any stop
    obtain ⟨tree, hts, fits⟩ := (ih trivial clean).resolve_right fun cut => List.cons_ne_nil _ _ cut.1
    refine .inl ⟨.initialized ⟨t, type⟩ ⟨n, name⟩ ⟨e, sign⟩ tree ⟨s, stop⟩, ?_, fits⟩
    simpa [SyntaxTree.tokens] using hts
  | @declarationPlain site t r type sign =>
    simp only [faults_append, List.append_eq_nil_iff, faults_expect_eq_nil] at clean
    obtain ⟨⟨name, stop⟩, -⟩ := clean
    obtain ⟨n, r, rfl, name⟩ := exists_cons_of_head?_any name
    obtain ⟨s, ts₂, rfl, stop⟩ := exists_cons_of_head?_any stop
    exact .inl ⟨.plain ⟨t, type⟩ ⟨n, name⟩ ⟨s, stop⟩, rfl, trivial⟩
  | @conditional site ts condition ts₁ branch ts₂ other ts₃ _ _ _ ih ih' ih'' =>
    simp only [faults_append, List.append_eq_nil_iff, faults_expect_eq_nil] at clean
    obtain ⟨⟨⟨⟨⟨word, left⟩, clean⟩, right⟩, clean'⟩, clean''⟩ := clean
    obtain ⟨w, ts, rfl, word⟩ := exists_cons_of_head?_any word
    obtain ⟨l, ts, rfl, left⟩ := exists_cons_of_head?_any left
    obtain ⟨r, ts₁, rfl, right⟩ := exists_cons_of_head?_any right
    obtain ⟨condition, hts, fits⟩ := (ih trivial clean).resolve_right fun cut => List.cons_ne_nil _ _ cut.1
    obtain ⟨branch, hts₁, fits'⟩ := (ih' trivial clean').resolve_right fun cut => cut.2
    cases hts
    cases hts₁
    rcases ih'' room clean'' with ⟨other, rfl, fits''⟩ | ⟨rfl, cut⟩
    · refine .inl ⟨.conditional ⟨w, word⟩ ⟨l, left⟩ condition ⟨r, right⟩ branch other, ?_,
        fits, fits', fits''⟩
      simp [SyntaxTree.tokens]
    · exact .inr ⟨rfl, ((((cut.append _).cons r).append _).cons l).cons w⟩
  | alternativeEnd | alternativeNone => exact .inl ⟨.noAlternative, rfl, trivial⟩
  | @alternativeConditional site t r found ts₁ word _ _ ih =>
    rcases ih room clean with ⟨tree, rfl, fits⟩ | ⟨rfl, cut⟩
    · exact .inl ⟨.elseStatement ⟨t, word⟩ (.ofConditional tree), rfl, room, fits⟩
    · exact .inr ⟨rfl, cut.cons t⟩
  | @alternativeBlock site t r found ts₁ word _ _ _ ih =>
    obtain ⟨tree, rfl, fits⟩ := (ih trivial clean).resolve_right fun cut => cut.2
    exact .inl ⟨.elseBlock ⟨t, word⟩ tree, rfl, fits⟩
  | @alternativeStatement site t r found ts₁ word _ _ _ ih =>
    rcases ih trivial clean with ⟨tree, rfl, fits⟩ | ⟨rfl, rfl | cut⟩
    · exact .inl ⟨.elseStatement ⟨t, word⟩ tree, rfl, fits⟩
    · exact .inr ⟨rfl, word⟩
    · exact .inr ⟨rfl, cut.cons t⟩
  | @block site ts body ts₁ _ ih =>
    simp only [faults_append, faults_block, List.append_eq_nil_iff, faults_expect_eq_nil] at clean
    obtain ⟨left, clean, right⟩ := clean
    obtain ⟨l, ts, rfl, left⟩ := exists_cons_of_head?_any left
    obtain ⟨r, ts₁, rfl, right⟩ := exists_cons_of_head?_any right
    obtain ⟨tree, hts, fits⟩ := (ih trivial clean).resolve_right fun cut => List.cons_ne_nil _ _ cut.1
    refine .inl ⟨.block ⟨l, left⟩ tree ⟨r, right⟩, ?_, fits⟩
    simpa [SyntaxTree.tokens] using hts
  | bodyEnd | bodyClose => exact .inl ⟨.noStatement, rfl, trivial⟩
  | @bodyMore site t r first others ts₁ ts₂ _ _ more ih ih' =>
    simp only [faults_append, List.append_eq_nil_iff] at clean
    rcases ih trivial clean.1 with ⟨head, hts, fits⟩ | ⟨rfl, cut⟩
    · rcases ih' trivial clean.2 with ⟨tail, rfl, fits'⟩ | ⟨rfl, cut⟩
      · exact .inl ⟨.statements head tail, by rw [← hts]; exact List.append_assoc .., fits, fits'⟩
      · exact .inr ⟨rfl, hts ▸ cut.append _⟩
    · cases more
      exact .inr ⟨rfl, cut.resolve_left (List.cons_ne_nil t r)⟩
  | @expressionStatement site ts found ts₁ _ ih =>
    simp only [faults_append, List.append_eq_nil_iff, faults_expect_eq_nil] at clean
    obtain ⟨clean, stop⟩ := clean
    obtain ⟨s, ts₁, rfl, stop⟩ := exists_cons_of_head?_any stop
    obtain ⟨tree, hts, fits⟩ := (ih trivial clean).resolve_right fun cut => List.cons_ne_nil _ _ cut.1
    refine .inl ⟨.expressionStatement tree ⟨s, stop⟩, ?_, fits⟩
    simpa [SyntaxTree.tokens] using hts
  | @expression site ts first ts₁ others ts₂ _ more ih ih' =>
    simp only [faults_append, List.append_eq_nil_iff] at clean
    rcases ih trivial clean.1 with ⟨head, rfl, fits⟩ | ⟨rfl, -⟩
    · rcases ih' trivial clean.2 with ⟨tail, rfl, fits'⟩ | ⟨rfl, -⟩
      · exact .inl ⟨.expression head tail, List.append_assoc .., fits, fits'⟩
      · exact .inr ⟨rfl, trivial⟩
    · cases more
      exact .inr ⟨rfl, trivial⟩
  | operandsEnd | operandsNone => exact .inl ⟨.noOperand, rfl, trivial⟩
  | @operandsMore site t r first ts₁ others ts₂ sign _ more ih ih' =>
    simp only [faults_append, List.append_eq_nil_iff] at clean
    rcases ih trivial clean.1 with ⟨head, rfl, fits⟩ | ⟨rfl, -⟩
    · rcases ih' trivial clean.2 with ⟨tail, rfl, fits'⟩ | ⟨rfl, -⟩
      · refine .inl ⟨.operands ⟨t, sign⟩ head tail, ?_, fits, fits'⟩
        simp [SyntaxTree.tokens]
      · exact .inr ⟨rfl, trivial⟩
    · cases more
      exact .inr ⟨rfl, trivial⟩
  | primaryEnd => exact .inr ⟨rfl, trivial⟩
  | @primaryAtom site t r atom => exact .inl ⟨.atom ⟨t, atom⟩, rfl, trivial⟩
  | @primaryGroup site t r inner ts₁ _ left full _ ih =>
    simp only [faults_group, faults_append, List.append_eq_nil_iff, faults_expect_eq_nil] at clean
    obtain ⟨clean, right⟩ := clean
    obtain ⟨u, ts₁, rfl, right⟩ := exists_cons_of_head?_any right
    obtain ⟨tree, rfl, fits⟩ := (ih trivial clean).resolve_right fun cut => List.cons_ne_nil _ _ cut.1
    refine .inl ⟨.group ⟨t, left⟩ tree ⟨u, right⟩, ?_, Site.lt_of_not_full full, fits⟩
    simp [SyntaxTree.tokens]

/-! ## Programs -/

theorem SyntaxTree.faults_findings {p : Phrase} (tree : SyntaxTree p) : faults tree.findings = [] := by
  refine List.filterMap_eq_nil_iff.2 fun x mem => ?_
  cases x with
  | fault e => exact absurd mem (tree.fault_notMem_findings e)
  | _ => rfl

/-- A program that keeps to the limit is read as its tree. -/
theorem SyntaxTree.findings_eq {tree : SyntaxTree .program} {limit : Nat} (fits : tree.Fits limit 0) :
    MiniC.findings tree.tokens limit = tree.findings := by
  have h := tree.reads (.ofProgram tree.tokens limit) [] fits rfl
  rw [List.append_nil] at h
  exact h.read_eq.1

/-- A token list that does not end with `else` (so the empty one, too) is parsed without a
syntax error exactly if it is a program that keeps to the limit. -/
theorem parse_errors_eq_nil_iff {tokens : List Token} {limit : Nat} (h : ¬ EndsWithElse tokens) :
    (parse tokens limit).errors = [] ↔ IsProgram limit tokens := by
  rw [parse_errors]
  constructor
  · intro clean
    have reads := reads_read (.ofProgram tokens limit) .program tokens
    rw [reads.program_rest] at reads
    obtain ⟨tree, hts, fits⟩ := (reads.tree_or_cut trivial clean).resolve_right fun cut => h cut.2
    rw [List.append_nil] at hts
    exact ⟨tree, hts, fits⟩
  · intro program
    obtain ⟨tree, rfl, fits⟩ := program
    rw [SyntaxTree.findings_eq fits, tree.faults_findings]

/-- A statement in a block is a program under the limit two, and none under the limit one. -/
theorem a_block_needs_two_levels :
    let ts : List Token := [⟨.delimiter, "\x7b", .start⟩, ⟨.identifier, "a", .start⟩,
      ⟨.delimiter, ";", .start⟩, ⟨.delimiter, "\x7d", .start⟩]
    ¬ EndsWithElse ts ∧ IsProgram 2 ts ∧ ¬ IsProgram 1 ts := by
  intro ts
  have h : ¬ EndsWithElse ts := by simp [ts, EndsWithElse, Token.isKeyword]
  refine ⟨h, (parse_errors_eq_nil_iff h).mp (by decide +kernel), fun hp => ?_⟩
  have clean := (parse_errors_eq_nil_iff h).mpr hp
  revert clean
  decide +kernel

end MiniC
