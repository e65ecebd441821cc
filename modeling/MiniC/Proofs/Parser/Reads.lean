/-
  MiniC.Proofs.Parser.Reads — reading, as rules.

  `Phrase.read` is one function over all phrases. Here each way that it can go is a rule of
  its own (`Reads`), so that a proof about reading is an induction over rules with names.
  The rules and the function say the same (`reads_read`, `Reads.read_eq`).
-/

import MiniC.Parser

namespace MiniC

/-! ## Room -/

theorem Site.lt_of_not_full {site : Site} (h : ¬ site.full) : site.depth < site.limit := by
  simpa [Site.full] using h

theorem Site.not_full_of_lt {site : Site} (h : site.depth < site.limit) : ¬ site.full := by
  simpa [Site.full] using h

/-- How many more levels there is room for. -/
def Site.room (site : Site) : Nat := site.limit - site.depth

@[simp] theorem Site.room_deeper (site : Site) : site.deeper.room = site.room - 1 := rfl

theorem Site.room_eq_zero_iff {site : Site} : site.full ↔ site.room = 0 := by
  simp [full, room, Nat.sub_eq_zero_iff_le]

/-! ## The rules -/

/-- `Reads site p ts found rest`: reading the phrase `p` from `ts` finds `found` and leaves
`rest`. -/
inductive Reads : Site → Phrase → List Token → List Finding → List Token → Prop
  | programEnd (site : Site) : Reads site .program [] [] []
  | programMore {site t r first others ts₁ ts₂} :
      Reads site .statement (t :: r) first ts₁ → Reads site .program ts₁ others ts₂ →
      Reads site .program (t :: r) (first ++ others) ts₂
  | statementEnd (site : Site) : Reads site .statement [] [] []
  | statementDeep {site t r} : site.full →
      Reads site .statement (t :: r) [.fault ⟨.tooDeep t.lexeme, t.position⟩] r
  | statementDeclaration {site t r found ts₁} : ¬ site.full → t.isTypeKeyword →
      Reads site .declaration (t :: r) found ts₁ → Reads site .statement (t :: r) found ts₁
  | statementConditional {site t r found ts₁} : ¬ site.full → ¬ t.isTypeKeyword →
      t.isKeyword "if" → Reads site .conditional (t :: r) found ts₁ →
      Reads site .statement (t :: r) found ts₁
  | statementBlock {site t r found ts₁} : ¬ site.full → ¬ t.isTypeKeyword → ¬ t.isKeyword "if" →
      t.isDelimiter "\x7b" → Reads site .block (t :: r) found ts₁ →
      Reads site .statement (t :: r) found ts₁
  | statementExpression {site t r found ts₁} : ¬ site.full → ¬ t.isTypeKeyword →
      ¬ t.isKeyword "if" → ¬ t.isDelimiter "\x7b" →
      Reads site .expressionStatement (t :: r) found ts₁ → Reads site .statement (t :: r) found ts₁
  | declarationEnd (site : Site) :
      Reads site .declaration [] [.fault ⟨.expected .type, site.finish⟩] []
  | declarationOther {site t r} : ¬ t.isTypeKeyword →
      Reads site .declaration (t :: r) [.fault ⟨.expected .type, t.position⟩] r
  | declarationInitialized {site t r value ts₁} : t.isTypeKeyword →
      r.tail.head?.any (·.isOperator "=") → Reads site .expression r.tail.tail value ts₁ →
      Reads site .declaration (t :: r)
        (site.expect r Token.isIdentifier .identifier ++ value
          ++ site.expect ts₁ (·.isDelimiter ";") .declarationEnd
          ++ Finding.declaration t r (lexemesBefore r.tail.tail ts₁)) ts₁.tail
  | declarationPlain {site t r} : t.isTypeKeyword → ¬ r.tail.head?.any (·.isOperator "=") →
      Reads site .declaration (t :: r)
        (site.expect r Token.isIdentifier .identifier
          ++ site.expect r.tail (·.isDelimiter ";") .declarationEnd
          ++ Finding.declaration t r none) r.tail.tail
  | conditional {site ts condition ts₁ branch ts₂ other ts₃} :
      Reads site .expression ts.tail.tail condition ts₁ → Reads site .block ts₁.tail branch ts₂ →
      Reads site .alternative ts₂ other ts₃ →
      Reads site .conditional ts
        (site.expect ts (·.isKeyword "if") .ifKeyword
          ++ site.expect ts.tail (·.isDelimiter "(") .conditionOpen ++ condition
          ++ site.expect ts₁ (·.isDelimiter ")") .conditionClose ++ branch ++ other) ts₃
  | alternativeEnd (site : Site) : Reads site .alternative [] [] []
  | alternativeNone {site t r} : ¬ t.isKeyword "else" → Reads site .alternative (t :: r) [] (t :: r)
  | alternativeConditional {site t r found ts₁} : t.isKeyword "else" →
      r.head?.any (·.isKeyword "if") → Reads site .conditional r found ts₁ →
      Reads site .alternative (t :: r) found ts₁
  | alternativeBlock {site t r found ts₁} : t.isKeyword "else" →
      ¬ r.head?.any (·.isKeyword "if") → r.head?.any (·.isDelimiter "\x7b") →
      Reads site .block r found ts₁ → Reads site .alternative (t :: r) found ts₁
  | alternativeStatement {site t r found ts₁} : t.isKeyword "else" →
      ¬ r.head?.any (·.isKeyword "if") → ¬ r.head?.any (·.isDelimiter "\x7b") →
      Reads site .statement r found ts₁ → Reads site .alternative (t :: r) found ts₁
  | block {site ts body ts₁} : Reads site.deeper .blockBody ts.tail body ts₁ →
      Reads site .block ts
        (site.expect ts (·.isDelimiter "\x7b") .blockOpen
          ++ Finding.block (ts.head?.filter (·.isDelimiter "\x7b"))
            (body ++ site.expect ts₁ (·.isDelimiter "\x7d") .blockClose)) ts₁.tail
  | bodyEnd (site : Site) : Reads site .blockBody [] [] []
  | bodyClose {site t r} : t.isDelimiter "\x7d" → Reads site .blockBody (t :: r) [] (t :: r)
  | bodyMore {site t r first others ts₁ ts₂} : ¬ t.isDelimiter "\x7d" →
      Reads site .statement (t :: r) first ts₁ → Reads site .blockBody ts₁ others ts₂ →
      Reads site .blockBody (t :: r) (first ++ others) ts₂
  | expressionStatement {site ts found ts₁} : Reads site .expression ts found ts₁ →
      Reads site .expressionStatement ts
        (found ++ site.expect ts₁ (·.isDelimiter ";") .expressionEnd) ts₁.tail
  | expression {site ts first ts₁ others ts₂} : Reads site .primary ts first ts₁ →
      Reads site .operands ts₁ others ts₂ → Reads site .expression ts (first ++ others) ts₂
  | operandsEnd (site : Site) : Reads site .operands [] [] []
  | operandsNone {site t r} : ¬ t.isAnyOperator → Reads site .operands (t :: r) [] (t :: r)
  | operandsMore {site t r first ts₁ others ts₂} : t.isAnyOperator →
      Reads site .primary r first ts₁ → Reads site .operands ts₁ others ts₂ →
      Reads site .operands (t :: r) (first ++ others) ts₂
  | primaryEnd (site : Site) : Reads site .primary [] [] []
  | primaryAtom {site t r} : t.isIdentifier || t.isLiteral → Reads site .primary (t :: r) [] r
  | primaryDeep {site t r} : ¬ (t.isIdentifier || t.isLiteral) → t.isDelimiter "(" → site.full →
      Reads site .primary (t :: r) [.fault ⟨.tooDeep t.lexeme, t.position⟩] r
  | primaryGroup {site t r inner ts₁} : ¬ (t.isIdentifier || t.isLiteral) → t.isDelimiter "(" →
      ¬ site.full → Reads site.deeper .expression r inner ts₁ →
      Reads site .primary (t :: r)
        (Finding.group (inner ++ site.expect ts₁ (·.isDelimiter ")") .groupClose)) ts₁.tail
  | primaryOther {site t r} : ¬ (t.isIdentifier || t.isLiteral) → ¬ t.isDelimiter "(" →
      Reads site .primary (t :: r) [.fault ⟨.invalidExpression t.lexeme, t.position⟩] r

/-- Reading goes by the rules. -/
theorem reads_read (site : Site) (p : Phrase) (ts : List Token) :
    Reads site p ts (p.read site ts).found (p.read site ts).rest := by
  fun_induction Phrase.read site p ts
  all_goals simp_all only
  case case1 => exact .programEnd _
  case case2 first others => exact .programMore first others
  case case3 => exact .statementEnd _
  case case4 full => exact .statementDeep full
  case case5 room type _ _ _ _ inner => exact .statementDeclaration room type inner
  case case6 room type word _ _ _ _ inner => exact .statementConditional room type word inner
  case case7 room type word brace _ _ _ _ inner => exact .statementBlock room type word brace inner
  case case8 room type word brace _ _ _ _ inner =>
    exact .statementExpression room type word brace inner
  case case9 => exact .declarationEnd _
  case case10 type _ sign _ _ _ _ _ value => exact .declarationInitialized type sign value
  case case11 type _ sign => exact .declarationPlain type sign
  case case12 type => exact .declarationOther type
  case case13 condition branch other => exact .conditional condition branch other
  case case14 => exact .alternativeEnd _
  case case15 word word' _ _ _ _ other => exact .alternativeConditional word word' other
  case case16 word word' brace _ _ _ _ other => exact .alternativeBlock word word' brace other
  case case17 word word' brace _ _ _ _ other => exact .alternativeStatement word word' brace other
  case case18 word => exact .alternativeNone word
  case case19 site =>
    have body : Reads site.deeper .blockBody (List.tail []) [] [] := .bodyEnd _
    exact .block body
  case case20 body => exact .block body
  case case21 => exact .bodyEnd _
  case case22 close => exact .bodyClose close
  case case23 close _ _ _ _ _ _ _ _ _ first others => exact .bodyMore close first others
  case case24 found => exact .expressionStatement found
  case case25 first others => exact .expression first others
  case case26 => exact .operandsEnd _
  case case27 sign _ _ _ _ _ _ _ _ first others => exact .operandsMore sign first others
  case case28 sign => exact .operandsNone sign
  case case29 => exact .primaryEnd _
  case case30 atom => exact .primaryAtom atom
  case case31 atom mark full => exact .primaryDeep atom mark full
  case case32 atom mark room _ _ _ _ inner => exact .primaryGroup atom mark room inner
  case case33 atom mark => exact .primaryOther atom mark

/-- The rules leave no choice: what they say is what is read. -/
theorem Reads.read_eq {site : Site} {p : Phrase} {ts rest : List Token} {found : List Finding}
    (h : Reads site p ts found rest) :
    (p.read site ts).found = found ∧ (p.read site ts).rest = rest := by
  induction h with
  | programEnd | statementEnd | declarationEnd | alternativeEnd | bodyEnd | operandsEnd
  | primaryEnd => rw [Phrase.read]; exact ⟨rfl, rfl⟩
  | programMore _ _ first others =>
    rw [Phrase.read]
    obtain ⟨rfl, rfl⟩ := first
    obtain ⟨rfl, rfl⟩ := others
    exact ⟨rfl, rfl⟩
  | statementDeep full =>
    rw [Phrase.read, if_pos full]
    exact ⟨rfl, rfl⟩
  | statementDeclaration room type _ inner =>
    rw [Phrase.read, if_neg room, if_pos type]
    exact inner
  | statementConditional room type word _ inner =>
    rw [Phrase.read, if_neg room, if_neg type, if_pos word]
    exact inner
  | statementBlock room type word brace _ inner =>
    rw [Phrase.read, if_neg room, if_neg type, if_neg word, if_pos brace]
    exact inner
  | statementExpression room type word brace _ inner =>
    rw [Phrase.read, if_neg room, if_neg type, if_neg word, if_neg brace]
    exact inner
  | declarationOther type =>
    rw [Phrase.read, if_neg type]
    exact ⟨rfl, rfl⟩
  | declarationInitialized type sign _ value =>
    rw [Phrase.read, if_pos type]
    simp only [if_pos sign]
    obtain ⟨rfl, rfl⟩ := value
    exact ⟨rfl, rfl⟩
  | declarationPlain type sign =>
    rw [Phrase.read, if_pos type]
    simp only [if_neg sign, and_self]
  | conditional _ _ _ condition branch other =>
    rw [Phrase.read]
    obtain ⟨rfl, rfl⟩ := condition
    obtain ⟨rfl, rfl⟩ := branch
    obtain ⟨rfl, rfl⟩ := other
    exact ⟨rfl, rfl⟩
  | alternativeNone word =>
    rw [Phrase.read, if_neg word]
    exact ⟨rfl, rfl⟩
  | alternativeConditional word word' _ other =>
    rw [Phrase.read, if_pos word, if_pos word']
    exact other
  | alternativeBlock word word' brace _ other =>
    rw [Phrase.read, if_pos word, if_neg word', if_pos brace]
    exact other
  | alternativeStatement word word' brace _ other =>
    rw [Phrase.read, if_pos word, if_neg word', if_neg brace]
    exact other
  | @block site ts _ _ _ body =>
    obtain ⟨rfl, rfl⟩ := body
    cases ts with
    | nil =>
      have body : (Phrase.read site.deeper .blockBody []).found = []
          ∧ (Phrase.read site.deeper .blockBody []).rest = [] := by
        rw [Phrase.read]; exact ⟨rfl, rfl⟩
      rw [Phrase.read, List.tail_nil, body.1, body.2]
      exact ⟨rfl, rfl⟩
    | cons t r => rw [Phrase.read]; exact ⟨rfl, rfl⟩
  | bodyClose close =>
    rw [Phrase.read, if_pos close]
    exact ⟨rfl, rfl⟩
  | bodyMore close _ _ first others =>
    rw [Phrase.read, if_neg close]
    obtain ⟨rfl, rfl⟩ := first
    obtain ⟨rfl, rfl⟩ := others
    exact ⟨rfl, rfl⟩
  | expressionStatement _ found =>
    rw [Phrase.read]
    obtain ⟨rfl, rfl⟩ := found
    exact ⟨rfl, rfl⟩
  | expression _ _ first others =>
    rw [Phrase.read]
    obtain ⟨rfl, rfl⟩ := first
    obtain ⟨rfl, rfl⟩ := others
    exact ⟨rfl, rfl⟩
  | operandsNone sign =>
    rw [Phrase.read, if_neg sign]
    exact ⟨rfl, rfl⟩
  | operandsMore sign _ _ first others =>
    rw [Phrase.read, if_pos sign]
    obtain ⟨rfl, rfl⟩ := first
    obtain ⟨rfl, rfl⟩ := others
    exact ⟨rfl, rfl⟩
  | primaryAtom atom =>
    rw [Phrase.read, if_pos atom]
    exact ⟨rfl, rfl⟩
  | primaryDeep atom mark full =>
    rw [Phrase.read, if_neg atom, if_pos mark, if_pos full]
    exact ⟨rfl, rfl⟩
  | primaryGroup atom mark room _ inner =>
    rw [Phrase.read, if_neg atom, if_pos mark, if_neg room]
    obtain ⟨rfl, rfl⟩ := inner
    exact ⟨rfl, rfl⟩
  | primaryOther atom mark =>
    rw [Phrase.read, if_neg atom, if_neg mark]
    exact ⟨rfl, rfl⟩

/-- Reading a program leaves nothing. -/
theorem Reads.program_rest {site : Site} {ts rest : List Token} {found : List Finding}
    (h : Reads site .program ts found rest) : rest = [] := by
  generalize hp : Phrase.program = p at h
  induction h with
  | programEnd => rfl
  | programMore _ _ _ ih => exact ih hp
  | _ => cases hp

end MiniC
