/-
  MiniC.Proofs.Lexer.Operations — what a lexer has counted, whatever has been asked of it.

  Anything may be asked of a lexer, one after another and in any order (`Lexer.Operation`): to
  read all that is left, to move on, to record an error, or to read one segment of a chosen kind
  wherever the cursor stands, under any position. A word may so be started inside another one, a
  string at a letter, and a text may be read to its end many times.

  All but two of the operations take segments (`Lexer.take`). A segment enters into the tally what
  it gives as an identifier, which is always a name (`Segment.Naming`), so the tally never parts
  from the tokens.

  Proved:
  - `Segment.next_naming`: only the reader of words gives identifiers, and a reserved word is none.
  - `Lexer.Tallied.perform`, `Lexer.Tallied.performAll`: each operation leaves the tally a tally of
    the tokens, so any sequence of them does.
  - `Lexer.tallied_after`: so the symbols are always the tally of the identifiers read so far, all
    names, and reading the text to its end gives them in strict order.
-/

import MiniC.Proofs.Tally

namespace MiniC

open Vocabulary

/-! ## Names -/

/-- A text of letters and digits that is no reserved word. It may be empty: a word that is started
where none stands is. -/
structure IsName (text : String) : Prop where
  free : text ∉ keywords
  plain : ∀ c ∈ text.toList, isWordChar c

/-- The segment enters the identifier that it gives, and this is a name. -/
structure Segment.Naming (s : Segment) : Prop where
  enters : s.Enters
  isName : ∀ text, s.token = some (.identifier, text) → IsName text

theorem Segment.Nameless.naming {s : Segment} (h : s.Nameless) : s.Naming :=
  ⟨h.enters, fun text given => absurd given (h.token text)⟩

/-- A word is an identifier only if it is not reserved. -/
theorem Segment.word_naming (cs : List Char) : (word cs).Naming := by
  refine ⟨word_enters cs, fun text given => ?_⟩
  simp only [word] at given
  split at given
  · simp at given
  · next free =>
    obtain ⟨-, rfl⟩ := Prod.mk.inj (Option.some.inj given)
    refine ⟨fun reserved => free (List.contains_iff_mem.2 reserved), fun c mem => ?_⟩
    rw [String.toList_ofList] at mem
    exact List.all_eq_true.1 List.all_takeWhile c mem

theorem Segment.next_naming (cs : List Char) : (next cs).Naming := by
  rcases nameless_or_word cs with nameless | isWord
  · exact nameless.naming
  · exact isWord ▸ word_naming cs

theorem segments_naming (p : Position) (cs : List Char) :
    ∀ s ∈ segments p cs, s.segment.Naming := by
  intro s mem
  obtain ⟨c, r, next⟩ := exists_next_of_mem mem
  exact next ▸ Segment.next_naming (c :: r)

/-! ## Operations -/

namespace Lexer

/-- What can be asked of a lexer. -/
inductive Operation where
  | tokenize
  | advance (steps : Int)
  | skipLineComment
  | skipBlockComment (position : Position)
  | readString (position : Position)
  | readNumber (position : Position)
  | readIdentifier (position : Position)
  | readSymbol (sign : String) (position : Position)
  | addError (message : String) (position : Position)

/-- The lexer after an operation. -/
def perform (l : Lexer) : Operation → Lexer
  | .tokenize => l.tokenize
  | .advance steps => l.advance steps
  | .skipLineComment => l.skipLineComment
  | .skipBlockComment position => l.skipBlockComment position
  | .readString position => l.readString position
  | .readNumber position => l.readNumber position
  | .readIdentifier position => l.readIdentifier position
  | .readSymbol sign position => l.readSymbol sign position
  | .addError message position => l.addError ⟨.stated message, position⟩

/-- The lexer after operations, one after another. -/
def performAll (l : Lexer) (operations : List Operation) : Lexer := operations.foldl perform l

/-- The symbols are the tally of the tokens, and the identifiers among these are names. -/
structure Tallied (l : Lexer) : Prop where
  tally : Tally.Of l.tally l.tokens
  names : ∀ t ∈ l.tokens, t.isIdentifier → IsName t.lexeme

namespace Tallied

variable {l : Lexer}

theorem ofText (source : String) : (Lexer.ofText source).Tallied :=
  ⟨.nil, fun _ mem => absurd mem List.not_mem_nil⟩

theorem isName_of_mem (h : l.Tallied) {s : RawSymbol} (mem : s ∈ l.tally) : IsName s.name := by
  obtain ⟨t, read, identifier, named⟩ := (h.tally.counted s mem).occurs
  exact named ▸ h.names t read identifier

/-- Segments may be taken wherever they come from. -/
theorem take (h : l.Tallied) {ps : List Placed} (naming : ∀ p ∈ ps, p.segment.Naming) :
    (l.take ps).Tallied := by
  have tally : Tally.Of (l.take ps).tally (l.take ps).tokens := by
    rw [l.tally_take fun p mem => (naming p mem).enters]
    exact h.tally.recordAll _
  refine ⟨tally, fun t mem identifier => ?_⟩
  rcases List.mem_append.1 mem with before | taken
  · exact h.names t before identifier
  · obtain ⟨p, member, given⟩ := List.mem_filterMap.1 taken
    obtain ⟨⟨kind, text⟩, token, rfl⟩ := Option.map_eq_some_iff.1 given
    obtain rfl : kind = .identifier := beq_iff_eq.1 identifier
    exact (naming p member).isName text token

theorem take_single (h : l.Tallied) {s : Segment} (naming : s.Naming) (position : Position) :
    (l.take [⟨s, position⟩]).Tallied :=
  h.take fun _ mem => List.mem_singleton.1 mem ▸ naming

theorem run (h : l.Tallied) : l.run.Tallied :=
  h.take (segments_naming l.cursor.position l.cursor.rest)

/-- Every operation leaves the symbols the tally of the tokens. -/
theorem perform (h : l.Tallied) (operation : Operation) : (l.perform operation).Tallied := by
  cases operation with
  | tokenize => exact ⟨h.run.tally, h.run.names⟩
  | advance steps => exact ⟨h.tally, h.names⟩
  | skipLineComment => exact h.take_single (Segment.Nameless.lineComment _).naming l.cursor.position
  | skipBlockComment position => exact h.take_single (Segment.Nameless.blockComment _).naming position
  | readString position => exact h.take_single (Segment.Nameless.string _).naming position
  | readNumber position => exact h.take_single (Segment.Nameless.number _).naming position
  | readIdentifier position => exact h.take_single (Segment.word_naming _) position
  | readSymbol sign position => exact h.take_single (Segment.Nameless.symbol sign _).naming position
  | addError message position => exact ⟨h.tally, h.names⟩

theorem performAll (h : l.Tallied) (operations : List Operation) :
    (l.performAll operations).Tallied := by
  induction operations generalizing l with
  | nil => exact h
  | cons operation operations ih => exact ih (h.perform operation)

end Tallied

/-- After any sequence of operations, and so after each step of one, the symbols have one entry for
each text that is an identifier among the tokens read so far, with how many of them it is and where
the first stands; every entry is a name. Reading on to the end of the text gives the entries by
name, without case first, in strict order. -/
theorem tallied_after (source : String) (operations : List Operation) :
    let l := (ofText source).performAll operations
    Tally.Of l.tally l.tokens ∧ (∀ s ∈ l.tally, IsName s.name) ∧
      let symbols := l.tokenize.result.symbols
      symbols.Perm l.tokenize.tally ∧ Tally.Of symbols l.tokenize.tokens ∧
        (symbols.map (·.name)).Pairwise Tally.Precedes := by
  intro l
  have tallied : l.Tallied := (Tallied.ofText source).performAll operations
  have read : l.tokenize.Tallied := tallied.perform .tokenize
  exact ⟨tallied.tally, fun _ => tallied.isName_of_mem, List.mergeSort_perm _ _, read.tally.sorted,
    read.tally.sorted_strict⟩

/-- A word that is started at its second letter is counted as what it is from there on, and under
the position that the caller names. -/
example :
    ((ofText "total total").performAll
        [.advance 1, .readIdentifier ⟨7, 7⟩, .advance 1, .readIdentifier ⟨3, 3⟩, .tokenize]).tally
      = [⟨"otal", 1, ⟨7, 7⟩⟩, ⟨"total", 1, ⟨3, 3⟩⟩] := by
  cbv

end Lexer

end MiniC
