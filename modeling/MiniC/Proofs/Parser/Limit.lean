/-
  MiniC.Proofs.Parser.Limit — the nesting limit matters only where it is hit.

  The limit is asked about at each statement and at each parenthesis. Where neither has been
  found too deep, there was room every time, and a higher limit leaves room, too. So both
  readings go by the same rules, whatever the tokens are.

  Proved:
  - `Reads.raise`: a phrase in which nothing was too deep is read under a higher limit by the
    same rules, with the same findings.
  - `parse_eq_of_not_tooDeep`: so parsing gives the same under every higher limit.
  - `two_levels_are_enough`: that nothing was too deep is necessary.
-/

import MiniC.Proofs.Grammar.Nesting
import MiniC.Proofs.Parser.Scoping

namespace MiniC

namespace Site

/-- The phrase stands at the same site, but under another limit. -/
def under (site : Site) (limit : Nat) : Site := { site with limit := limit }

variable {site : Site} {limit : Nat}

/-- Where there is room, there is room under a higher limit. -/
theorem not_full_under (le : site.limit ≤ limit) (room : ¬ site.full) : ¬ (site.under limit).full := by
  have lt := lt_of_not_full room
  exact not_full_of_lt (Nat.lt_of_lt_of_le lt le)

end Site

/-- What was not too deep is read by the same rules under a higher limit. -/
theorem Reads.raise {site : Site} {p : Phrase} {ts rest : List Token} {found : List Finding}
    (h : Reads site p ts found rest) {limit : Nat} (le : site.limit ≤ limit)
    (shallow : ¬ HasDeep found) : Reads (site.under limit) p ts found rest := by
  -- A statement or a parenthesis without room would have been found too deep. Every other rule
  -- looks at the tokens and the end of the input only.
  induction h with
  | statementDeep | primaryDeep => exact absurd (hasDeep_fault _) shallow
  | programEnd => exact .programEnd _
  | statementEnd => exact .statementEnd _
  | declarationEnd => exact .declarationEnd _
  | alternativeEnd => exact .alternativeEnd _
  | bodyEnd => exact .bodyEnd _
  | operandsEnd => exact .operandsEnd _
  | primaryEnd => exact .primaryEnd _
  | declarationOther type => exact .declarationOther type
  | alternativeNone word => exact .alternativeNone word
  | bodyClose close => exact .bodyClose close
  | operandsNone sign => exact .operandsNone sign
  | primaryAtom atom => exact .primaryAtom atom
  | primaryOther atom mark => exact .primaryOther atom mark
  | declarationPlain type sign => exact .declarationPlain type sign
  | statementDeclaration room type _ ih =>
    exact .statementDeclaration (Site.not_full_under le room) type (ih le shallow)
  | statementConditional room type word _ ih =>
    exact .statementConditional (Site.not_full_under le room) type word (ih le shallow)
  | statementBlock room type word brace _ ih =>
    exact .statementBlock (Site.not_full_under le room) type word brace (ih le shallow)
  | statementExpression room type word brace _ ih =>
    exact .statementExpression (Site.not_full_under le room) type word brace (ih le shallow)
  | alternativeConditional word word' _ ih =>
    exact .alternativeConditional word word' (ih le shallow)
  | alternativeBlock word word' brace _ ih =>
    exact .alternativeBlock word word' brace (ih le shallow)
  | alternativeStatement word word' brace _ ih =>
    exact .alternativeStatement word word' brace (ih le shallow)
  | programMore _ _ ih ih' =>
    obtain ⟨first, others⟩ := not_or.1 (mt hasDeep_append.2 shallow)
    exact .programMore (ih le first) (ih' le others)
  | bodyMore close _ _ ih ih' =>
    obtain ⟨first, others⟩ := not_or.1 (mt hasDeep_append.2 shallow)
    exact .bodyMore close (ih le first) (ih' le others)
  | expression _ _ ih ih' =>
    obtain ⟨first, others⟩ := not_or.1 (mt hasDeep_append.2 shallow)
    exact .expression (ih le first) (ih' le others)
  | operandsMore sign _ _ ih ih' =>
    obtain ⟨first, others⟩ := not_or.1 (mt hasDeep_append.2 shallow)
    exact .operandsMore sign (ih le first) (ih' le others)
  | declarationInitialized type sign _ ih =>
    simp only [hasDeep_append, not_or] at shallow
    exact .declarationInitialized type sign (ih le shallow.1.1.2)
  | conditional _ _ _ ih ih' ih'' =>
    simp only [hasDeep_append, not_or] at shallow
    obtain ⟨⟨⟨⟨-, condition⟩, -⟩, branch⟩, other⟩ := shallow
    exact .conditional (ih le condition) (ih' le branch) (ih'' le other)
  | block _ ih =>
    simp only [hasDeep_append, hasDeep_block, not_or] at shallow
    exact .block (ih le shallow.2.1)
  | expressionStatement _ ih =>
    exact .expressionStatement (ih le (not_or.1 (mt hasDeep_append.2 shallow)).1)
  | primaryGroup atom mark room _ ih =>
    simp only [hasDeep_append, hasDeep_group, not_or] at shallow
    exact .primaryGroup atom mark (Site.not_full_under le room) (ih le shallow.1)

/-- What has been parsed is told by the findings; the limit has no part in it but through them. -/
theorem parse_congr {tokens : List Token} {limit limit' : Nat}
    (same : findings tokens limit' = findings tokens limit) :
    parse tokens limit' = parse tokens limit := by
  have errors : (parse tokens limit').errors = (parse tokens limit).errors := by
    rw [parse_errors, parse_errors, same]
  have made : allVariables tokens limit' = allVariables tokens limit :=
    congrArg (registered [] 0) same
  obtain ⟨declared, refused⟩ := parse_register tokens limit
  obtain ⟨declared', refused'⟩ := parse_register tokens limit'
  rw [made, ← declared] at declared'
  rw [made, ← refused] at refused'
  exact (Parsed.mk.injEq ..).mpr ⟨errors, declared', refused'⟩

/-- Tokens that are parsed without a fault about their nesting are parsed the same under every
higher limit. -/
theorem parse_eq_of_not_tooDeep {limit limit' : Nat} (le : limit ≤ limit') {tokens : List Token}
    (shallow : ∀ e ∈ (parse tokens limit).errors, ¬ e.fault.isTooDeep) :
    parse tokens limit' = parse tokens limit := by
  have none : ¬ HasDeep (findings tokens limit) := by
    rintro ⟨e, mem, deep⟩
    rw [← parse_errors] at mem
    exact shallow e mem deep
  have raised := (reads_read (.ofProgram tokens limit) .program tokens).raise le none
  exact parse_congr raised.read_eq.1

/-- A text with faults and a name declared twice, in which two levels are nested. Two levels are as
good as 266, and one is not. -/
theorem two_levels_are_enough :
    let ts := (tokenize "if (a) \x7b int x = (1); int x; ) ; \x7d int y = ((2;").tokens
    2 ≤ 266 ∧ (∀ e ∈ (parse ts 2).errors, ¬ e.fault.isTooDeep) ∧ parse ts 266 = parse ts 2 ∧
      (parse ts 2).errors.map (·.fault.message)
        = ["invalid expression near ')'", "expected ')' after the expression",
          "expected ')' after the expression", "expected ';' at the end of the variable declaration"] ∧
      (parse ts 2).declarations.map (·.name) = ["x", "y"] ∧
      (parse ts 2).semanticErrors.map (·.name) = ["x"] ∧ parse ts 1 ≠ parse ts 2 := by
  intro ts
  have le : 2 ≤ 266 := by decide
  have shallow : ∀ e ∈ (parse ts 2).errors, ¬ e.fault.isTooDeep := by decide +kernel
  exact ⟨le, shallow, parse_eq_of_not_tooDeep le shallow, by decide +kernel, by decide +kernel,
    by decide +kernel, by decide +kernel⟩

end MiniC
