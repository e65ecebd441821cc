/-
  MiniC.Proofs.Lexer.Respacing — tokens written out with whitespace between them.

  Every lexeme that the lexer gives delimits itself (`SelfDelimiting`): where whitespace or the
  end of the text follows it, it is read as the token that it was, and to its end. So the
  lexemes of any text, written one after another with a gap of whitespace between each two
  (`spaceOut`), are read as the same tokens.

  Proved:
  - `selfDelimiting_of_next`: the token of every segment delimits itself, that of a faulty
    numeral included.
  - `segments_spaceOut`: lexemes that delimit themselves are read back from any way to space them.
  - `tokenize_spaceOut`: so the tokens of every text survive, with the names that are counted
    and their counts, and without an error.
-/

import MiniC.Proofs.Layout.Tokens
import MiniC.Proofs.Lexer.Segmentation

namespace MiniC

open Vocabulary

/-- What may stand between two tokens: whitespace, at least one character of it. -/
structure Gap where
  text : List Char
  ne_nil : text ≠ []
  blank : ∀ c ∈ text, isWhitespace c

/-- The words, one after another, with the gaps between each two in turn. -/
def spaceOut (gap : Nat → Gap) : List String → List Char
  | [] => []
  | [word] => word.toList
  | word :: next :: words =>
    word.toList ++ (gap 0).text ++ spaceOut (fun n => gap (n + 1)) (next :: words)

/-- Whitespace follows, or nothing. -/
def Open (rest : List Char) : Prop := rest.head?.all isWhitespace

theorem Open.not_any {rest : List Char} (h : Open rest) {p : Char → Bool}
    (apart : ∀ c, isWhitespace c → ¬ p c) : ¬ rest.head?.any p := by
  cases rest with
  | nil => simp
  | cons c r => exact apart c h

theorem Gap.open_append (g : Gap) (rest : List Char) : Open (g.text ++ rest) := by
  obtain ⟨c, cs, text⟩ := List.exists_cons_of_ne_nil g.ne_nil
  rw [text]
  exact g.blank c (by rw [text]; exact List.mem_cons_self)

theorem not_isWordChar_of_isWhitespace {c : Char} (h : isWhitespace c) : ¬ isWordChar c := by
  rw [isWhitespace_iff] at h
  rcases h with rfl | rfl | rfl | rfl <;> decide

theorem not_isLetter_of_isWhitespace {c : Char} (h : isWhitespace c) : ¬ isLetter c := by
  have word := not_isWordChar_of_isWhitespace h
  simp only [isWordChar, Bool.or_eq_true, not_or] at word
  exact word.1

theorem not_isDigit_of_isWhitespace {c : Char} (h : isWhitespace c) : ¬ isDigit c := by
  have word := not_isWordChar_of_isWhitespace h
  simp only [isWordChar, Bool.or_eq_true, not_or] at word
  exact word.2

/-! ## Lexemes that delimit themselves -/

/-- Where whitespace or nothing follows it, the lexeme is read as a token of the kind, to its end. -/
def SelfDelimiting (kind : TokenKind) (lexeme : List Char) : Prop :=
  lexeme ≠ [] ∧ ∀ rest, Open rest → ∃ entry,
    Segment.next (lexeme ++ rest) = ⟨lexeme.length, none, some (kind, String.ofList lexeme), entry⟩

theorem Numeral.mem {cs : List Char} (h : Numeral cs) : ∀ c ∈ cs, isDigit c ∨ c = '.' := by
  rcases h with ⟨-, all⟩ | ⟨whole, fraction, ⟨-, all⟩, ⟨-, all'⟩, rfl⟩
  · exact fun c mem => .inl (all c mem)
  · intro c mem
    rcases List.mem_append.1 mem with mem | mem
    · exact .inl (all c mem)
    · rcases List.mem_cons.1 mem with rfl | mem
      · exact .inr rfl
      · exact .inl (all' c mem)

/-- Whitespace ends a numeral. -/
theorem Numeral.longest {n rest : List Char} (h : Numeral n) (isOpen : Open rest) :
    LongestNumeral n (n ++ rest) := by
  refine ⟨h, List.prefix_append n rest, fun ds numeral start => ?_⟩
  by_cases le : ds.length ≤ n.length
  · exact le
  -- A longer one would hold the whitespace after `n`.
  · obtain ⟨tail, rfl⟩ := List.prefix_of_prefix_length_le (List.prefix_append n rest) start (by omega)
    have tail_prefix : tail <+: rest := (List.prefix_append_right_inj n).1 start
    cases tail with
    | nil => simp at le
    | cons c tail =>
      obtain ⟨more, rfl⟩ := tail_prefix
      have white : isWhitespace c := isOpen
      rcases numeral.mem c (by simp) with digit | point
      · exact absurd digit (not_isDigit_of_isWhitespace white)
      · subst point
        exact absurd white (by decide)

theorem selfDelimiting_string {items : List (List Char)} (good : ∀ item ∈ items, StringItem item) :
    SelfDelimiting .string ('"' :: (items.flatten ++ ['"'])) := by
  refine ⟨List.cons_ne_nil _ _, fun rest _ => ⟨none, ?_⟩⟩
  have next : Segment.next ('"' :: (items.flatten ++ ['"']) ++ rest)
      = Segment.string ('"' :: (items.flatten ++ ['"']) ++ rest) := rfl
  rw [next, string_closed good]

theorem selfDelimiting_number {n : List Char} (numeral : Numeral n) : SelfDelimiting .number n := by
  obtain ⟨c, r, rfl, digit⟩ := numeral.head
  refine ⟨List.cons_ne_nil c r, fun rest isOpen => ⟨none, ?_⟩⟩
  rw [List.cons_append, next_number (r ++ rest) digit, ← List.cons_append,
    number_plain (numeral.longest isOpen) (isOpen.not_any fun _ => not_isLetter_of_isWhitespace)]

theorem selfDelimiting_word {c : Char} {w : List Char} (letter : isLetter c)
    (inside : ∀ x ∈ w, isWordChar x) :
    SelfDelimiting (if String.ofList (c :: w) ∈ keywords then .keyword else .identifier) (c :: w) := by
  refine ⟨List.cons_ne_nil c w, fun rest isOpen => ?_⟩
  have next : Segment.next (c :: w ++ rest) = Segment.word (c :: w ++ rest) :=
    next_word (w ++ rest) letter
  have word := word_eq (isWordChar_cons letter inside)
    (isOpen.not_any fun _ => not_isWordChar_of_isWhitespace)
  exact ⟨_, next.trans word⟩

/-! ## Signs -/

/-- Does neither whitespace, nor a string, a numeral or a word start with the character? -/
def isSign (c : Char) : Bool := !isWhitespace c && c != '"' && !isDigit c && !isLetter c

/-- A sign that opens no comment is read as a symbol. -/
theorem next_sign {c : Char} {r : List Char} (sign : isSign c)
    (comment : c = '/' → r.head? ≠ some '/' ∧ r.head? ≠ some '*') :
    Segment.next (c :: r) = Segment.symbol (String.ofList [c]) (c :: r) := by
  simp only [isSign, Bool.and_eq_true, Bool.not_eq_true', bne_iff_ne] at sign
  obtain ⟨⟨⟨blank, quote⟩, digit⟩, letter⟩ := sign
  have line : ¬ (c = '/' ∧ r.head? = some '/') := fun h => (comment h.1).1 h.2
  have block : ¬ (c = '/' ∧ r.head? = some '*') := fun h => (comment h.1).2 h.2
  simp [Segment.next, blank, quote, digit, letter, line, block]

theorem selfDelimiting_pair {c d : Char} (mem : String.ofList [c, d] ∈ pairOperators) :
    SelfDelimiting .operator [c, d] := by
  have signs : ∀ pair ∈ pairOperators,
      pair.toList.head?.all isSign ∧ pair ≠ "//" ∧ pair ≠ "/*" := by decide
  obtain ⟨sign, line, block⟩ := signs _ mem
  rw [String.toList_ofList, List.head?_cons] at sign
  have comment (rest : List Char) : c = '/' →
      (d :: rest).head? ≠ some '/' ∧ (d :: rest).head? ≠ some '*' := by
    intro slash
    subst slash
    constructor
    · intro h
      exact line (by rw [Option.some.inj h])
    · intro h
      exact block (by rw [Option.some.inj h])
  refine ⟨List.cons_ne_nil _ _, fun rest _ => ⟨none, ?_⟩⟩
  exact (next_sign sign (comment rest)).trans (symbol_pair mem)

/-- A sign before whitespace or nothing is not the first of a pair. -/
theorem Open.pairAt_notMem {rest : List Char} (h : Open rest) (c : Char) :
    pairAt c rest ∉ pairOperators := by
  have pairs : ∀ pair ∈ pairOperators,
      pair.toList.length = 2 ∧ pair.toList.all (!isWhitespace ·) := by decide
  intro mem
  obtain ⟨length, solid⟩ := pairs _ mem
  rw [pairAt, ← String.ofList_append, String.toList_ofList] at length solid
  cases rest with
  | nil => simp at length
  | cons d r =>
    have white : isWhitespace d := h
    simp [white] at solid

/-- A sign before whitespace or nothing is read as a symbol. -/
theorem Open.next_sign {rest : List Char} (h : Open rest) {c : Char} (sign : isSign c) :
    Segment.next (c :: rest) = Segment.symbol (String.ofList [c]) (c :: rest) := by
  have solid (d : Char) (notWhite : ¬ isWhitespace d) : rest.head? ≠ some d := by
    intro head
    obtain ⟨r, rfl⟩ := List.head?_eq_some_iff.1 head
    exact notWhite h
  exact MiniC.next_sign sign fun _ => ⟨solid '/' (by decide), solid '*' (by decide)⟩

theorem selfDelimiting_operator {c : Char} (mem : String.ofList [c] ∈ singleOperators) :
    SelfDelimiting .operator [c] := by
  have signs : ∀ sign ∈ singleOperators, sign.toList.head?.all isSign := by decide
  have sign : isSign c := by simpa using signs _ mem
  refine ⟨List.cons_ne_nil _ _, fun rest isOpen => ⟨none, ?_⟩⟩
  exact (isOpen.next_sign sign).trans (symbol_operator (isOpen.pairAt_notMem c) mem)

theorem selfDelimiting_delimiter {c : Char} (mem : String.ofList [c] ∈ delimiters) :
    SelfDelimiting .delimiter [c] := by
  have signs : ∀ mark ∈ delimiters, mark.toList.head?.all isSign := by decide
  have sign : isSign c := by simpa using signs _ mem
  refine ⟨List.cons_ne_nil _ _, fun rest isOpen => ⟨none, ?_⟩⟩
  exact (isOpen.next_sign sign).trans (symbol_delimiter (isOpen.pairAt_notMem c) mem)

/-! ## Every token delimits itself -/

theorem SelfDelimiting.of_token {kind kind' : TokenKind} {cs : List Char} {lexeme : String}
    (h : SelfDelimiting kind cs) (token : some (kind, String.ofList cs) = some (kind', lexeme)) :
    SelfDelimiting kind' lexeme.toList := by
  obtain ⟨rfl, rfl⟩ := Prod.mk.inj (Option.some.inj token)
  rwa [String.toList_ofList]

/-- The token of a piece delimits itself, whatever rule took the piece. -/
theorem Takes.selfDelimiting {rule : CutRule} {piece : Piece} {rest : List Char}
    (h : Takes rule piece rest) {kind : TokenKind} {lexeme : String}
    (token : piece.token = some (kind, lexeme)) : SelfDelimiting kind lexeme.toList := by
  cases h with
  | blank | lineComment | blockComment | openComment | brokenString | other => simp at token
  | string good => exact (selfDelimiting_string good).of_token token
  | number longest => exact (selfDelimiting_number longest.1).of_token token
  -- The numeral is a token without the letters that it ran into.
  | badNumber longest => exact (selfDelimiting_number longest.1).of_token token
  | keyword letter inside _ reserved =>
    have word := selfDelimiting_word letter inside
    rw [if_pos reserved] at word
    exact word.of_token token
  | identifier letter inside _ free =>
    have word := selfDelimiting_word letter inside
    rw [if_neg free] at word
    exact word.of_token token
  | pairOperator mem => exact (selfDelimiting_pair mem).of_token token
  | operator mem => exact (selfDelimiting_operator mem).of_token token
  | delimiter mem => exact (selfDelimiting_delimiter mem).of_token token

theorem selfDelimiting_of_next {c : Char} {r : List Char} {kind : TokenKind} {lexeme : String}
    (h : (Segment.next (c :: r)).token = some (kind, lexeme)) :
    SelfDelimiting kind lexeme.toList := by
  obtain ⟨rule, ⟨piece, rest, takes, split⟩, first⟩ := exists_first (applies_other c r)
  have same : (Segment.next (c :: r)).piece (c :: r) = piece := (takes.eq_next split first).1
  refine takes.selfDelimiting ?_
  rw [← same]
  exact h

/-- So does each token of a text. -/
theorem selfDelimiting_of_mem (p : Position) (cs : List Char) :
    ∀ t ∈ (segments p cs).filterMap (·.token?), SelfDelimiting t.kind t.lexeme.toList := by
  intro t mem
  obtain ⟨s, member, token⟩ := List.mem_filterMap.1 mem
  obtain ⟨c, r, next⟩ := exists_next_of_mem member
  obtain ⟨form, given, rfl⟩ := Option.map_eq_some_iff.1 token
  rw [next] at given
  exact selfDelimiting_of_next given

/-! ## Reading spaced tokens back -/

/-- A text is cut behind the piece that it starts with. -/
theorem segments_piece {piece rest : List Char} {fault : Option LexFault}
    {token : Option (TokenKind × String)} {entry : Option String} (ne : piece ≠ [])
    (next : Segment.next (piece ++ rest) = ⟨piece.length, fault, token, entry⟩) (p : Position) :
    segments p (piece ++ rest)
      = ⟨⟨piece.length, fault, token, entry⟩, p⟩ :: segments (p.past piece) rest := by
  obtain ⟨c, r, rfl⟩ := List.exists_cons_of_ne_nil ne
  rw [List.cons_append] at next ⊢
  rw [segments, next, ← List.cons_append, List.take_left, List.drop_left]

theorem segments_white {c : Char} (white : isWhitespace c) (p : Position) (r : List Char) :
    segments p (c :: r) = ⟨Segment.blank, p⟩ :: segments (p.after c) r :=
  @segments_piece [c] r none none none (List.cons_ne_nil c []) (if_pos white) p

theorem segments_gap {blanks : List Char} (white : ∀ c ∈ blanks, isWhitespace c) (p : Position)
    (rest : List Char) :
    ∃ q, (segments p (blanks ++ rest)).filterMap (·.error?) = (segments q rest).filterMap (·.error?) ∧
      (segments p (blanks ++ rest)).filterMap (·.token?) = (segments q rest).filterMap (·.token?) := by
  induction blanks generalizing p with
  | nil => exact ⟨p, rfl, rfl⟩
  | cons c blanks ih =>
    obtain ⟨head, tail⟩ := List.forall_mem_cons.1 white
    obtain ⟨q, errors, tokens⟩ := ih tail (p.after c)
    refine ⟨q, ?_, ?_⟩
    · rw [← errors, List.cons_append, segments_white head]
      rfl
    · rw [← tokens, List.cons_append, segments_white head]
      rfl

theorem segments_lexeme {kind : TokenKind} {lexeme : List Char} (h : SelfDelimiting kind lexeme)
    {rest : List Char} (isOpen : Open rest) (p : Position) :
    ∃ entry, segments p (lexeme ++ rest)
      = ⟨⟨lexeme.length, none, some (kind, String.ofList lexeme), entry⟩, p⟩
        :: segments (p.past lexeme) rest := by
  obtain ⟨entry, next⟩ := h.2 rest isOpen
  exact ⟨entry, segments_piece h.1 next p⟩

theorem segments_spaceOut (forms : List (TokenKind × String))
    (good : ∀ form ∈ forms, SelfDelimiting form.1 form.2.toList) (gap : Nat → Gap) (p : Position) :
    (segments p (spaceOut gap (forms.map (·.2)))).filterMap (·.error?) = [] ∧
      ((segments p (spaceOut gap (forms.map (·.2)))).filterMap (·.token?)).map Token.form = forms := by
  induction forms generalizing gap p with
  | nil => simp [spaceOut, segments]
  | cons form forms ih =>
    obtain ⟨kind, lexeme⟩ := form
    have first : SelfDelimiting kind lexeme.toList := good _ List.mem_cons_self
    cases forms with
    | nil =>
      obtain ⟨entry, read⟩ := @segments_lexeme _ _ first [] rfl p
      rw [List.append_nil] at read
      simp [spaceOut, read, segments, Placed.error?, Placed.token?, Token.form]
    | cons next forms =>
      -- The gap ends the lexeme, and is skipped before the others.
      obtain ⟨later, text⟩ : ∃ later, later = spaceOut (fun n => gap (n + 1))
          ((next :: forms).map (·.2)) := ⟨_, rfl⟩
      obtain ⟨q, errors, tokens⟩ := segments_gap (gap 0).blank (p.past lexeme.toList) later
      obtain ⟨entry, read⟩ := segments_lexeme first ((gap 0).open_append later) p
      obtain ⟨noErrors, forms_eq⟩ :=
        ih (fun form mem => good form (List.mem_cons_of_mem _ mem)) (fun n => gap (n + 1)) q
      rw [← text] at noErrors forms_eq
      have whole : spaceOut gap (((kind, lexeme) :: next :: forms).map (·.2))
          = lexeme.toList ++ ((gap 0).text ++ later) := by
        rw [text, ← List.append_assoc]
        rfl
      rw [whole, read, String.ofList_toList]
      constructor
      · rw [List.filterMap_cons, errors, noErrors]
        rfl
      · rw [List.filterMap_cons, tokens]
        exact congrArg ((kind, lexeme) :: ·) forms_eq

/-- The name and the count of an entry. -/
def RawSymbol.counted (s : RawSymbol) : String × Int := (s.name, s.count)

/-- The tokens of every text, written out with whitespace between each two, are read back: the
same kinds and lexemes, no error, and the same names with the same counts. -/
theorem tokenize_spaceOut (source : String) (gap : Nat → Gap) :
    let first := tokenize source
    let again := tokenize (String.ofList (spaceOut gap (first.tokens.map (·.lexeme))))
    again.errors = [] ∧ again.tokens.map Token.form = first.tokens.map Token.form ∧
      again.symbols.map RawSymbol.counted = first.symbols.map RawSymbol.counted := by
  intro first again
  have good : ∀ form ∈ first.tokens.map Token.form, SelfDelimiting form.1 form.2.toList := by
    intro form mem
    obtain ⟨t, member, rfl⟩ := List.mem_map.1 mem
    exact selfDelimiting_of_mem .start source.toList t member
  have lexemes : (first.tokens.map Token.form).map (·.2) = first.tokens.map (·.lexeme) :=
    List.map_map
  obtain ⟨noErrors, forms⟩ := segments_spaceOut _ good gap .start
  rw [lexemes] at noErrors forms
  rw [← String.toList_ofList (l := spaceOut gap (first.tokens.map (·.lexeme)))] at noErrors forms
  have errors : again.errors = [] := noErrors
  have alike : again.tokens.map Token.form = first.tokens.map Token.form := forms
  refine ⟨errors, alike, ?_⟩
  -- The new tokens are the old ones at other places, and counting looks at no place.
  obtain ⟨f, moved⟩ := exists_move (tokenize_inOrder source) alike.symm
  have symbols : again.symbols = first.symbols.map (RawSymbol.move f) := by
    rw [tokenize_symbols, moved, Tally.sorted_recordAll_move, ← tokenize_symbols]
  rw [symbols, List.map_map]
  rfl

end MiniC
