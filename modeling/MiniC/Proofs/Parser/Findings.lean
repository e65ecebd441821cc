/-
  MiniC.Proofs.Parser.Findings — what findings leave in a parser.

  A parser takes the findings of a reading one after another. The syntax errors that it
  holds afterwards are its earlier ones and the faults found, in order (`record_errors`).
-/

import MiniC.Parser

namespace MiniC

def Finding.error? : Finding → Option SyntaxError
  | .fault e => some e
  | _ => none

/-- The faults among the findings. -/
def faults (found : List Finding) : List SyntaxError := found.filterMap Finding.error?

/-- What is picked out of findings, and never out of a declared name, is not found where a
declaration has been read. -/
theorem Finding.filterMap_declaration {α : Type} {pick : Finding → Option α}
    (h : ∀ type name initial, pick (.declared type name initial) = none) (type : Token)
    (ts : List Token) (initial : Option String) :
    (Finding.declaration type ts initial).filterMap pick = [] := by
  unfold Finding.declaration
  split
  · rfl
  · split
    · rw [List.filterMap_cons, h]
      rfl
    · rfl

/-! ## Faults -/

@[simp] theorem faults_nil : faults [] = [] := rfl

@[simp] theorem faults_cons (x : Finding) (found : List Finding) :
    faults (x :: found) = x.error?.toList ++ faults found := by
  cases x <;> rfl

@[simp] theorem faults_append (first others : List Finding) :
    faults (first ++ others) = faults first ++ faults others := by
  simp [faults, List.filterMap_append]

@[simp] theorem faults_block (brace : Option Token) (inside : List Finding) :
    faults (Finding.block brace inside) = faults inside := by
  simp [Finding.block, Finding.error?]

@[simp] theorem faults_group (inside : List Finding) :
    faults (Finding.group inside) = faults inside := by
  simp [Finding.group, Finding.error?]

@[simp] theorem faults_declaration (type : Token) (ts : List Token) (initial : Option String) :
    faults (Finding.declaration type ts initial) = [] :=
  Finding.filterMap_declaration (fun _ _ _ => rfl) type ts initial

theorem faults_expect_eq_nil {site : Site} {ts : List Token} {wanted : Token → Bool}
    {what : Expectation} : faults (site.expect ts wanted what) = [] ↔ ts.head?.any wanted := by
  unfold Site.expect
  split
  · next h => simp [h]
  · next h => simp [h, Finding.error?]

/-! ## Taking findings -/

namespace Parser

@[simp] theorem record_nil (p : Parser) : p.record [] = p := rfl

@[simp] theorem record_cons (p : Parser) (x : Finding) (found : List Finding) :
    p.record (x :: found) = (p.note x).record found := rfl

theorem note_errors (p : Parser) (x : Finding) : (p.note x).errors = p.errors ++ x.error?.toList := by
  cases x <;> simp [note, addErrors, pushScope, popScope, declare, Finding.error?]

theorem record_errors (p : Parser) (found : List Finding) :
    (p.record found).errors = p.errors ++ faults found := by
  induction found generalizing p with
  | nil => simp
  | cons x found ih => rw [record_cons, ih, note_errors, faults_cons, List.append_assoc]

end Parser

/-- Where a program stands. -/
def Site.ofProgram (tokens : List Token) (limit : Nat) : Site := (Parser.start tokens limit []).site

/-- Where a program stands depends on its last token only. -/
theorem Site.ofProgram_append (first : List Token) {tokens : List Token} (h : tokens ≠ [])
    (limit : Nat) : ofProgram (first ++ tokens) limit = ofProgram tokens limit := by
  have last : (first ++ tokens).getLast? = tokens.getLast? := by
    rw [List.getLast?_append, List.getLast?_eq_some_getLast h, Option.some_or]
  simp only [ofProgram, Parser.site, Parser.start, last]

/-- What is found in a program. -/
def findings (tokens : List Token) (limit : Nat) : List Finding :=
  (Phrase.program.read (.ofProgram tokens limit) tokens).found

theorem parse_eq_record (tokens : List Token) (limit : Nat) :
    parse tokens limit = ((Parser.start tokens limit []).record (findings tokens limit)).result := rfl

theorem parse_errors (tokens : List Token) (limit : Nat) :
    (parse tokens limit).errors = faults (findings tokens limit) := by
  rw [parse_eq_record]
  exact Parser.record_errors _ _

end MiniC
