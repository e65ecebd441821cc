/-
  MiniC.Proofs.Lexer.Rules — the rules by which a text is cut into pieces.

  A text is cut from its start. At each place the first rule of `CutRule` that applies says
  what the next piece is, what token it gives and what error (`Takes`, `Cut`). A position is
  told by counting: the line by the line feeds before it, the column by the characters since
  the last of them (`placeAfter`).

  Proved: `exists_first`, that some rule is the first to apply wherever one applies, and
  `Cut.flatten`, that the pieces of a cut make up the text.
-/

import MiniC.Lexer

namespace MiniC

open Vocabulary

/-! ## The rules -/

/-- The rules by which a text is cut, in the order in which they are tried. -/
inductive CutRule where
  | blank
  | lineComment
  | blockComment
  | string
  | brokenString
  | number
  | word
  | pairOperator
  | single
  | other
  deriving DecidableEq, Repr

/-- The place of a rule in the order. -/
def CutRule.rank : CutRule → Nat
  | .blank => 0
  | .lineComment => 1
  | .blockComment => 2
  | .string => 3
  | .brokenString => 4
  | .number => 5
  | .word => 6
  | .pairOperator => 7
  | .single => 8
  | .other => 9

/-- A stretch of text, with the message of the error and the token that it gives. -/
structure Piece where
  text : List Char
  error : Option String
  token : Option (TokenKind × String)
  deriving DecidableEq, Repr

/-- What stands between the quotes of a string: a character that means itself, or a backslash
with the character after it. -/
def StringItem (item : List Char) : Prop :=
  (∃ c, item = [c] ∧ c ≠ '"' ∧ c ≠ '\\' ∧ c ≠ '\n') ∨ ∃ c, item = ['\\', c] ∧ c ≠ '\n'

def Digits (cs : List Char) : Prop := cs ≠ [] ∧ ∀ c ∈ cs, isDigit c

/-- Digits, and a fraction of digits after a point or none. -/
def Numeral (cs : List Char) : Prop :=
  Digits cs ∨ ∃ whole fraction, Digits whole ∧ Digits fraction ∧ cs = whole ++ '.' :: fraction

/-- The longest start of the text that is a numeral. -/
def LongestNumeral (cs text : List Char) : Prop :=
  Numeral cs ∧ cs <+: text ∧ ∀ ds, Numeral ds → ds <+: text → ds.length ≤ cs.length

/-- `Takes rule piece rest`: where `piece.text ++ rest` is left of a text, the rule applies and
takes `piece`. -/
inductive Takes : CutRule → Piece → List Char → Prop
  | blank {c : Char} {rest : List Char} : isWhitespace c → Takes .blank ⟨[c], none, none⟩ rest
  | lineComment {body rest : List Char} : '\n' ∉ body → rest.head?.all (· = '\n') →
      Takes .lineComment ⟨'/' :: '/' :: body, none, none⟩ rest
  | blockComment {body rest : List Char} : ¬ ['*', '/'] <:+: body ++ ['*'] →
      Takes .blockComment ⟨'/' :: '*' :: (body ++ ['*', '/']), none, none⟩ rest
  | openComment {body : List Char} : ¬ ['*', '/'] <:+: body →
      Takes .blockComment ⟨'/' :: '*' :: body, some "unterminated block comment", none⟩ []
  | string {items : List (List Char)} {rest : List Char} : (∀ item ∈ items, StringItem item) →
      Takes .string ⟨'"' :: (items.flatten ++ ['"']), none,
        some (.string, String.ofList ('"' :: (items.flatten ++ ['"'])))⟩ rest
  | brokenString {items : List (List Char)} {slash stop rest : List Char} : (∀ item ∈ items, StringItem item) →
      slash = [] ∨ slash = ['\\'] → stop = ['\n'] ∨ stop = [] ∧ rest = [] →
      Takes .brokenString ⟨'"' :: (items.flatten ++ (slash ++ stop)),
        some "unterminated string", none⟩ rest
  | number {n rest : List Char} : LongestNumeral n (n ++ rest) → ¬ rest.head?.any isLetter →
      Takes .number ⟨n, none, some (.number, String.ofList n)⟩ rest
  /-- A numeral that runs into letters is faulty with all that it runs into, and is a token
  without it. -/
  | badNumber {n tail rest : List Char} : LongestNumeral n (n ++ (tail ++ rest)) → tail.head?.any isLetter →
      (∀ c ∈ tail, isWordChar c) → ¬ rest.head?.any isWordChar →
      Takes .number ⟨n ++ tail, some s!"invalid number: '{String.ofList (n ++ tail)}'",
        some (.number, String.ofList n)⟩ rest
  | keyword {c : Char} {w rest : List Char} : isLetter c → (∀ x ∈ w, isWordChar x) → ¬ rest.head?.any isWordChar →
      String.ofList (c :: w) ∈ keywords →
      Takes .word ⟨c :: w, none, some (.keyword, String.ofList (c :: w))⟩ rest
  | identifier {c : Char} {w rest : List Char} : isLetter c → (∀ x ∈ w, isWordChar x) → ¬ rest.head?.any isWordChar →
      String.ofList (c :: w) ∉ keywords →
      Takes .word ⟨c :: w, none, some (.identifier, String.ofList (c :: w))⟩ rest
  | pairOperator {c d : Char} {rest : List Char} : String.ofList [c, d] ∈ pairOperators →
      Takes .pairOperator ⟨[c, d], none, some (.operator, String.ofList [c, d])⟩ rest
  | operator {c : Char} {rest : List Char} : String.ofList [c] ∈ singleOperators →
      Takes .single ⟨[c], none, some (.operator, String.ofList [c])⟩ rest
  | delimiter {c : Char} {rest : List Char} : String.ofList [c] ∈ delimiters →
      Takes .single ⟨[c], none, some (.delimiter, String.ofList [c])⟩ rest
  | other {c : Char} {rest : List Char} :
      Takes .other ⟨[c], some s!"unrecognized symbol: '{String.ofList [c]}'", none⟩ rest

/-- Does the rule apply where `text` is left? -/
def Applies (rule : CutRule) (text : List Char) : Prop :=
  ∃ piece rest, Takes rule piece rest ∧ piece.text ++ rest = text

/-- No rule before this one applies. -/
def IsFirst (rule : CutRule) (text : List Char) : Prop :=
  ∀ earlier : CutRule, earlier.rank < rule.rank → ¬ Applies earlier text

/-- The text is cut into the pieces: one after another, without gap or overlap, each by the
first rule that applies at its place. -/
inductive Cut : List Char → List Piece → Prop
  | nil : Cut [] []
  | cons {rule piece rest pieces} : Takes rule piece rest → IsFirst rule (piece.text ++ rest) →
      Cut rest pieces → Cut (piece.text ++ rest) (piece :: pieces)

/-! ## What the pieces give -/

/-- Where the character after `before` stands. -/
def placeAfter (before : List Char) : Position :=
  ⟨1 + before.count '\n', 1 + (before.reverse.takeWhile (· ≠ '\n')).length⟩

/-- The tokens of the pieces, when `before` stands before them. -/
def tokensOf (before : List Char) : List Piece → List Token
  | [] => []
  | piece :: pieces =>
    (piece.token.map fun (kind, lexeme) => ⟨kind, lexeme, placeAfter before⟩).toList
      ++ tokensOf (before ++ piece.text) pieces

/-- The errors of the pieces, when `before` stands before them. -/
def errorsOf (before : List Char) : List Piece → List Diagnostic
  | [] => []
  | piece :: pieces =>
    (piece.error.map (⟨·, placeAfter before⟩)).toList ++ errorsOf (before ++ piece.text) pieces

/-! ## First facts -/

theorem Numeral.head {cs : List Char} (h : Numeral cs) : ∃ c r, cs = c :: r ∧ isDigit c := by
  rcases h with ⟨ne, all⟩ | ⟨whole, fraction, ⟨ne, all⟩, -, rfl⟩
  · obtain ⟨c, r, rfl⟩ := List.exists_cons_of_ne_nil ne
    exact ⟨c, r, rfl, all c List.mem_cons_self⟩
  · obtain ⟨c, r, rfl⟩ := List.exists_cons_of_ne_nil ne
    exact ⟨c, _, rfl, all c List.mem_cons_self⟩

theorem Takes.text_ne_nil {rule : CutRule} {piece : Piece} {rest : List Char}
    (h : Takes rule piece rest) : piece.text ≠ [] := by
  cases h with
  | number longest _ =>
    obtain ⟨c, r, rfl, -⟩ := longest.1.head
    exact List.cons_ne_nil _ _
  | badNumber longest _ _ _ =>
    obtain ⟨c, r, rfl, -⟩ := longest.1.head
    exact List.cons_ne_nil _ _
  | _ => exact List.cons_ne_nil _ _

theorem applies_other (c : Char) (r : List Char) : Applies .other (c :: r) :=
  ⟨_, r, .other, rfl⟩

/-- If a rule applies, then some rule is the first that does. -/
theorem exists_first {rule : CutRule} {text : List Char} (h : Applies rule text) :
    ∃ first, Applies first text ∧ IsFirst first text := by
  by_cases first : IsFirst rule text
  · exact ⟨rule, h, first⟩
  · simp only [IsFirst, Classical.not_forall, Classical.not_not] at first
    obtain ⟨earlier, less, applies⟩ := first
    exact exists_first applies
termination_by rule.rank

theorem IsFirst.mono {rule later : CutRule} {text : List Char} (h : IsFirst later text)
    (le : rule.rank ≤ later.rank) : IsFirst rule text :=
  fun earlier less => h earlier (Nat.lt_of_lt_of_le less le)

theorem Cut.flatten {text : List Char} {pieces : List Piece} (h : Cut text pieces) :
    (pieces.map (·.text)).flatten = text := by
  induction h with
  | nil => rfl
  | cons _ _ _ ih => rw [List.map_cons, List.flatten_cons, ih]

end MiniC
