/-
  MiniC.Proofs.Lexer.Segmentation — the lexer cuts every text by the rules.

  Proved:
  - `Takes.eq_piece`: the piece that the first rule to apply takes is the segment that the
    lexer reads there. The rules leave no choice.
  - `segments_cut`: from any place on, the segments are the only cut by the rules.
  - `tokenize_segmentation`: every text has exactly one cut by the rules, and reading it
    gives the tokens and the errors of the pieces, each at the start of its piece.
-/

import MiniC.Proofs.Lexer.Readers

namespace MiniC

open Vocabulary

/-! ## Which reader reads -/

theorem not_isDigit_of_isLetter {c : Char} (h : isLetter c) : ¬ isDigit c := by
  simp only [isLetter, isDigit, Bool.or_eq_true, Bool.and_eq_true, decide_eq_true_eq, beq_iff_eq,
    Char.le_def, UInt32.le_iff_toNat_le] at h ⊢
  intro digit
  obtain ⟨low, high⟩ := digit
  rcases h with (⟨a, b⟩ | ⟨a, b⟩) | underscore
  · revert a high; simp; omega
  · revert a high; simp; omega
  · subst underscore
    exact absurd high (by decide)

theorem isWhitespace_iff {c : Char} :
    isWhitespace c ↔ c = ' ' ∨ c = '\t' ∨ c = '\r' ∨ c = '\n' := by
  simp [isWhitespace, or_assoc]

/-- A letter or a digit starts a numeral or a word. -/
theorem next_wordChar {c : Char} (r : List Char) (h : isWordChar c) :
    Segment.next (c :: r) = if isDigit c then Segment.number (c :: r) else Segment.word (c :: r) := by
  have notBlank : ¬ isWhitespace c := by
    rw [isWhitespace_iff]
    intro blank
    rcases blank with rfl | rfl | rfl | rfl <;> exact absurd h (by decide)
  have notSlash : c ≠ '/' := by
    intro e
    subst e
    exact absurd h (by decide)
  have notQuote : c ≠ '"' := by
    intro e
    subst e
    exact absurd h (by decide)
  have letter : ¬ isDigit c → isLetter c := by
    simp only [isWordChar, Bool.or_eq_true] at h
    exact h.resolve_right
  rw [Segment.next, if_neg notBlank, if_neg fun line => notSlash line.1,
    if_neg fun block => notSlash block.1, if_neg notQuote]
  by_cases digit : isDigit c
  · rw [if_pos digit, if_pos digit]
  · rw [if_neg digit, if_neg digit, if_pos (letter digit)]

theorem next_number {c : Char} (r : List Char) (h : isDigit c) :
    Segment.next (c :: r) = Segment.number (c :: r) := by
  rw [next_wordChar r (by simp [isWordChar, h]), if_pos h]

theorem next_word {c : Char} (r : List Char) (h : isLetter c) :
    Segment.next (c :: r) = Segment.word (c :: r) := by
  rw [next_wordChar r (by simp [isWordChar, h]), if_neg (not_isDigit_of_isLetter h)]

/-- Where no rule up to the words applies, a symbol is read. -/
theorem next_symbol {c : Char} {r : List Char} (h : IsFirst .pairOperator (c :: r)) :
    Segment.next (c :: r) = Segment.symbol (String.ofList [c]) (c :: r) := by
  have notBlank : ¬ isWhitespace c := fun hc => h .blank (by decide) ⟨_, r, .blank hc, rfl⟩
  have notLine : ¬ (c = '/' ∧ r.head? = some '/') := by
    intro line
    obtain ⟨rfl, head⟩ := line
    obtain ⟨r, rfl⟩ := List.head?_eq_some_iff.1 head
    exact h .lineComment (by decide) (applies_lineComment r)
  have notOpen : ¬ (c = '/' ∧ r.head? = some '*') := by
    intro block
    obtain ⟨rfl, head⟩ := block
    obtain ⟨r, rfl⟩ := List.head?_eq_some_iff.1 head
    exact h .blockComment (by decide) (applies_blockComment r)
  have notQuote : c ≠ '"' := by
    intro e
    subst e
    exact (applies_string r).elim (h .string (by decide)) (h .brokenString (by decide))
  have notDigit : ¬ isDigit c := fun hc => h .number (by decide) (applies_number r hc)
  have notLetter : ¬ isLetter c := fun hc => h .word (by decide) (applies_word r hc)
  simp [Segment.next, notBlank, notLine, notOpen, notQuote, notDigit, notLetter]

theorem isWordChar_cons {c : Char} {w : List Char} (letter : isLetter c)
    (inside : ∀ x ∈ w, isWordChar x) : ∀ x ∈ c :: w, isWordChar x :=
  List.forall_mem_cons.2 ⟨by simp [isWordChar, letter], inside⟩

/-! ## The first rule and the reader -/

/-- The piece of `text` that a segment at its start is. -/
def Segment.piece (s : Segment) (text : List Char) : Piece :=
  ⟨text.take s.size, s.fault.map LexFault.message, s.token⟩

theorem Segment.piece_append {s : Segment} {text rest : List Char} (h : s.size = text.length) :
    s.piece (text ++ rest) = ⟨text, s.fault.map LexFault.message, s.token⟩ := by
  simp [piece, h]

/-- Where a rule is the first to apply, its piece is the segment that the lexer reads. -/
theorem Takes.eq_piece {rule : CutRule} {piece : Piece} {rest : List Char}
    (h : Takes rule piece rest) (first : IsFirst rule (piece.text ++ rest)) :
    (Segment.next (piece.text ++ rest)).piece (piece.text ++ rest) = piece := by
  -- The start of the piece chooses its reader, and that one reads to its end. Only the single
  -- characters need the rules before them not to apply.
  cases h with
  | blank white =>
    simp [Segment.next, white, Segment.blank, Segment.piece]
  | @lineComment body rest plain stop =>
    have next : Segment.next ('/' :: '/' :: body ++ rest)
        = Segment.lineComment ('/' :: '/' :: body ++ rest) := rfl
    rw [next, lineComment_eq plain stop, Segment.piece_append rfl]
    rfl
  | @blockComment body rest close =>
    have next : Segment.next ('/' :: '*' :: (body ++ ['*', '/']) ++ rest)
        = Segment.blockComment ('/' :: '*' :: (body ++ ['*', '/']) ++ rest) := rfl
    rw [next, blockComment_closed close, Segment.piece_append rfl]
    rfl
  | @openComment body close =>
    have next : Segment.next ('/' :: '*' :: body ++ [])
        = Segment.blockComment ('/' :: '*' :: body) := by rw [List.append_nil]; rfl
    rw [next, blockComment_open close, Segment.piece_append rfl]
    rfl
  | @string items rest good =>
    have next : Segment.next ('"' :: (items.flatten ++ ['"']) ++ rest)
        = Segment.string ('"' :: (items.flatten ++ ['"']) ++ rest) := rfl
    rw [next, string_closed good, Segment.piece_append rfl]
    rfl
  | @brokenString items slash stop rest good escape ends =>
    have next : Segment.next ('"' :: (items.flatten ++ (slash ++ stop)) ++ rest)
        = Segment.string ('"' :: (items.flatten ++ (slash ++ stop)) ++ rest) := rfl
    rw [next, string_broken good escape ends, Segment.piece_append rfl]
    rfl
  | @number n rest longest stop =>
    obtain ⟨c, r, rfl, digit⟩ := longest.1.head
    rw [List.cons_append, next_number (r ++ rest) digit, ← List.cons_append,
      number_plain longest stop, Segment.piece_append rfl]
    rfl
  | @badNumber n tail rest longest letter inside stop =>
    obtain ⟨c, r, rfl, digit⟩ := longest.1.head
    have next : Segment.next (c :: r ++ tail ++ rest) = Segment.number (c :: r ++ tail ++ rest) :=
      next_number (r ++ tail ++ rest) digit
    rw [next, number_faulty longest letter inside stop, Segment.piece_append rfl]
    rfl
  | @keyword c w rest letter inside stop reserved =>
    rw [List.cons_append, next_word (w ++ rest) letter, ← List.cons_append,
      word_eq (isWordChar_cons letter inside) stop, if_pos reserved, Segment.piece_append rfl]
    rfl
  | @identifier c w rest letter inside stop free =>
    rw [List.cons_append, next_word (w ++ rest) letter, ← List.cons_append,
      word_eq (isWordChar_cons letter inside) stop, if_neg free, Segment.piece_append rfl]
    rfl
  | @pairOperator c d rest mem =>
    have next : Segment.next ([c, d] ++ rest) = Segment.symbol (String.ofList [c]) (c :: d :: rest) :=
      next_symbol first
    rw [next, symbol_pair mem, Segment.piece_append rfl]
    rfl
  | @operator c rest mem =>
    have next : Segment.next ([c] ++ rest) = Segment.symbol (String.ofList [c]) (c :: rest) :=
      next_symbol (first.mono (by decide))
    rw [next, symbol_operator (pairAt_notMem (r := rest) first) mem, Segment.piece_append rfl]
    rfl
  | @delimiter c rest mem =>
    have next : Segment.next ([c] ++ rest) = Segment.symbol (String.ofList [c]) (c :: rest) :=
      next_symbol (first.mono (by decide))
    rw [next, symbol_delimiter (pairAt_notMem (r := rest) first) mem, Segment.piece_append rfl]
    rfl
  | @other c rest =>
    have next : Segment.next ([c] ++ rest) = Segment.symbol (String.ofList [c]) (c :: rest) :=
      next_symbol (first.mono (by decide))
    have single : pairAt c rest ∉ pairOperators := pairAt_notMem (first.mono (by decide))
    rw [next, symbol_other (r := rest) first single, Segment.piece_append rfl]
    rfl

/-! ## The cut of a text -/

/-- What a rule takes, and what it leaves, is what the lexer takes and leaves. -/
theorem Takes.eq_next {rule : CutRule} {piece : Piece} {rest text : List Char}
    (h : Takes rule piece rest) (split : piece.text ++ rest = text) (first : IsFirst rule text) :
    (Segment.next text).piece text = piece ∧ text.drop (Segment.next text).size = rest := by
  subst split
  have same := h.eq_piece first
  refine ⟨same, ?_⟩
  have taken : (piece.text ++ rest).take (Segment.next (piece.text ++ rest)).size = piece.text :=
    congrArg Piece.text same
  refine @List.append_cancel_left _ piece.text _ _ ?_
  calc piece.text ++ (piece.text ++ rest).drop (Segment.next (piece.text ++ rest)).size
      = (piece.text ++ rest).take (Segment.next (piece.text ++ rest)).size
          ++ (piece.text ++ rest).drop (Segment.next (piece.text ++ rest)).size := by rw [taken]
    _ = piece.text ++ rest := List.take_append_drop _ _

/-- There is one way to cut a text that is not empty: after the segment that the lexer reads
at its start. -/
theorem cut_cons_iff {c : Char} {r : List Char} {pieces : List Piece} :
    Cut (c :: r) pieces ↔ ∃ later, pieces = (Segment.next (c :: r)).piece (c :: r) :: later ∧
      Cut ((c :: r).drop (Segment.next (c :: r)).size) later := by
  constructor
  · intro h
    generalize whole : c :: r = text at h ⊢
    cases h with
    | nil => simp at whole
    | cons takes first cut =>
      obtain ⟨same, left⟩ := takes.eq_next rfl first
      exact ⟨_, by rw [same], by rwa [left]⟩
  · intro h
    obtain ⟨later, rfl, cut⟩ := h
    obtain ⟨rule, ⟨piece, rest, takes, split⟩, first⟩ := exists_first (applies_other c r)
    obtain ⟨same, left⟩ := takes.eq_next split first
    rw [same]
    rw [left] at cut
    rw [← split] at first ⊢
    exact .cons takes first cut

theorem cut_nil_iff {pieces : List Piece} : Cut [] pieces ↔ pieces = [] := by
  constructor
  · intro h
    generalize whole : [] = text at h
    cases h with
    | nil => rfl
    | cons takes _ _ => exact absurd (List.append_eq_nil_iff.1 whole.symm).1 takes.text_ne_nil
  · intro h
    subst h
    exact .nil

/-! ## Positions -/

theorem placeAfter_append (before cs : List Char) :
    placeAfter (before ++ cs) = (placeAfter before).past cs := by
  induction cs generalizing before with
  | nil => rw [List.append_nil, Position.past_nil]
  | cons c cs ih =>
    have step : placeAfter (before ++ [c]) = (placeAfter before).after c := by
      unfold placeAfter Position.after
      rw [List.reverse_append, List.count_append]
      by_cases feed : c = '\n'
      · subst feed
        simp [Int.add_assoc]
      · simp [feed, Int.add_comm]
    rw [List.append_cons, ih, step, Position.past_cons]

/-! ## The lexer cuts by the rules -/

theorem segments_cut (before cs : List Char) :
    ∃ pieces, (∀ others, Cut cs others ↔ others = pieces) ∧
      (segments (placeAfter before) cs).filterMap (·.token?) = tokensOf before pieces ∧
      ((segments (placeAfter before) cs).filterMap (·.error?)).map LexError.diagnostic
        = errorsOf before pieces := by
  generalize at_ : placeAfter before = p
  fun_induction segments p cs generalizing before with
  | case1 => exact ⟨[], fun _ => cut_nil_iff, rfl, rfl⟩
  | case2 p c r s ih =>
    subst at_
    obtain ⟨later, cut, tokens, errors⟩ := ih (before ++ (c :: r).take s.size) (placeAfter_append _ _)
    refine ⟨s.piece (c :: r) :: later, fun others => ?_, ?_, ?_⟩
    · rw [cut_cons_iff]
      constructor
      · intro h
        obtain ⟨tail, rfl, rest⟩ := h
        rw [(cut tail).1 rest]
      · intro h
        subst h
        exact ⟨later, rfl, (cut later).2 rfl⟩
    · rw [List.filterMap_cons, tokens]
      simp only [Placed.token?, tokensOf, Segment.piece]
      cases s.token <;> rfl
    · rw [List.filterMap_cons]
      simp only [Placed.error?, errorsOf, Segment.piece]
      rw [← errors]
      cases s.fault <;> rfl

/-- Every text has exactly one cut by the rules, and its pieces make up the text. The tokens are those
of the pieces, and so are the messages of the errors, each at the start of its piece. -/
theorem tokenize_segmentation (source : String) :
    ∃ pieces, (∀ others, Cut source.toList others ↔ others = pieces) ∧
      (pieces.map (·.text)).flatten = source.toList ∧
      (tokenize source).tokens = tokensOf [] pieces ∧
      (tokenize source).errors.map LexError.diagnostic = errorsOf [] pieces := by
  obtain ⟨pieces, cut, tokens, errors⟩ := segments_cut [] source.toList
  exact ⟨pieces, cut, ((cut pieces).2 rfl).flatten, tokens, errors⟩

end MiniC
