/-
  MiniC.Proofs.Lexer.LineEnds — a carriage return before each line feed changes nothing.

  `crlf` writes a carriage return before every line feed. No position moves by that: a line feed
  sets the column back, whatever stands before it (`Position.past_crlf`). What the return is
  depends on where it stands: whitespace between tokens, text in a comment or a string, and behind
  a backslash the character that this takes with it. In every case the line feed is met one
  character later and in the same state, so a reader takes the same piece of the text, with its
  line ends rewritten (`Segment.SamePiece`). Only a comment up to the end of its line takes the
  return, too, and leaves the line feed alone.

  Proved:
  - `Segment.SamePiece.next`: both texts start with the same piece, unless that is a line feed.
  - `segments_crlf`: the tokens and the errors are the same, and stand at the same positions.
  - `Text.splitLines_crlf`: in print the lines are the same, if the text has no returns of its own.
  - `analysis_crlf`: so are the symbols, the analysis and every excerpt.
-/

import MiniC.Proofs.Excerpt
import MiniC.Proofs.Lexer.Lines

namespace MiniC

open Vocabulary

/-! ## Line ends of two characters -/

/-- The text with a carriage return before each line feed. -/
def crlf (cs : List Char) : List Char := cs.flatMap fun c => if c = '\n' then ['\r', '\n'] else [c]

@[simp] theorem crlf_nil : crlf [] = [] := rfl

@[simp] theorem crlf_feed (r : List Char) : crlf ('\n' :: r) = '\r' :: '\n' :: crlf r := rfl

theorem crlf_cons {c : Char} (solid : c ≠ '\n') (r : List Char) : crlf (c :: r) = c :: crlf r := by
  simp [crlf, solid]

theorem crlf_append (cs ds : List Char) : crlf (cs ++ ds) = crlf cs ++ crlf ds :=
  List.flatMap_append

theorem crlf_of_notMem {cs : List Char} (line : '\n' ∉ cs) : crlf cs = cs := by
  induction cs with
  | nil => rfl
  | cons c r ih =>
    rw [List.mem_cons, not_or] at line
    rw [crlf_cons (Ne.symm line.1), ih line.2]

theorem crlf_ne_nil {cs : List Char} (ne : cs ≠ []) : crlf cs ≠ [] := by
  obtain ⟨c, r, rfl⟩ := List.exists_cons_of_ne_nil ne
  by_cases feed : c = '\n'
  · subst feed
    exact List.cons_ne_nil _ _
  · rw [crlf_cons feed]
    exact List.cons_ne_nil _ _

theorem head?_crlf {d : Char} (feed : d ≠ '\n') (back : d ≠ '\r') (cs : List Char) :
    (crlf cs).head? = some d ↔ cs.head? = some d := by
  cases cs with
  | nil => rfl
  | cons c r =>
    by_cases ends : c = '\n'
    · subst ends
      simp [feed.symm, back.symm]
    · rw [crlf_cons ends]
      rfl

/-- What has no line end in it starts the one text if it starts the other. -/
theorem prefix_crlf_iff {ds cs : List Char} (feed : '\n' ∉ ds) (back : '\r' ∉ ds) :
    ds <+: crlf cs ↔ ds <+: cs := by
  induction cs generalizing ds with
  | nil => rfl
  | cons c r ih =>
    cases ds with
    | nil => simp
    | cons d ds =>
      rw [List.mem_cons, not_or] at feed back
      by_cases ends : c = '\n'
      · subst ends
        simp [List.cons_prefix_cons, Ne.symm feed.1, Ne.symm back.1]
      · rw [crlf_cons ends, List.cons_prefix_cons, List.cons_prefix_cons, ih feed.2 back.2]

theorem infix_crlf_iff {ds cs : List Char} (feed : '\n' ∉ ds) (back : '\r' ∉ ds) :
    ds <:+: crlf cs ↔ ds <:+: cs := by
  induction cs with
  | nil => rfl
  | cons c r ih =>
    have start := @prefix_crlf_iff ds (c :: r) feed back
    by_cases ends : c = '\n'
    · subst ends
      have inside : ds <+: '\n' :: crlf r → ds <+: '\n' :: r := by
        intro start
        cases ds with
        | nil => exact List.nil_prefix
        | cons d ds =>
          obtain ⟨rfl, -⟩ := List.cons_prefix_cons.1 start
          exact absurd List.mem_cons_self feed
      rw [crlf_feed] at start ⊢
      rw [List.infix_cons_iff, List.infix_cons_iff, List.infix_cons_iff (a := '\n'), ih, start,
        ← or_assoc, or_iff_left_of_imp inside]
    · rw [crlf_cons ends] at start ⊢
      rw [List.infix_cons_iff, List.infix_cons_iff (a := c), ih, start]

/-- The characters after it stand where they would. -/
theorem Position.past_crlf (p : Position) (cs : List Char) : p.past (crlf cs) = p.past cs := by
  induction cs generalizing p with
  | nil => rfl
  | cons c r ih =>
    by_cases ends : c = '\n'
    · subst ends
      rw [crlf_feed, past_cons, past_cons, past_cons, ih]
      rfl
    · rw [crlf_cons ends, past_cons, past_cons, ih]

/-! ## The same pieces -/

namespace Segment

/-- The reader takes a piece of the text, and the same piece when the line ends are written with
two characters. Before a line feed it may take the carriage return, too. -/
inductive SamePiece (read : List Char → Segment) : List Char → Prop
  | whole {piece rest : List Char} {fault : Option LexFault} {token : Option (TokenKind × String)}
      {entry : Option String} :
      read (piece ++ rest) = ⟨piece.length, fault, token, entry⟩ →
      read (crlf piece ++ crlf rest) = ⟨(crlf piece).length, fault, token, entry⟩ →
      SamePiece read (piece ++ rest)
  | beforeFeed {piece b : List Char} {fault : Option LexFault} {token : Option (TokenKind × String)}
      {entry : Option String} :
      read (piece ++ '\n' :: b) = ⟨piece.length, fault, token, entry⟩ →
      read (crlf piece ++ '\r' :: '\n' :: crlf b) = ⟨(crlf piece).length + 1, fault, token, entry⟩ →
      SamePiece read (piece ++ '\n' :: b)

namespace SamePiece

theorem congr {read read' : List Char → Segment} {cs : List Char} (h : SamePiece read cs)
    (here : read' cs = read cs) (there : read' (crlf cs) = read (crlf cs)) : SamePiece read' cs := by
  cases h with
  | whole first second =>
    rw [crlf_append] at there
    exact .whole (here.trans first) (there.trans second)
  | beforeFeed first second =>
    rw [crlf_append, crlf_feed] at there
    exact .beforeFeed (here.trans first) (there.trans second)

/-- The piece is all of the text. -/
theorem of_all {read : List Char → Segment} {cs : List Char} {fault : Option LexFault}
    {token : Option (TokenKind × String)} {entry : Option String}
    (here : read cs = ⟨cs.length, fault, token, entry⟩)
    (there : read (crlf cs) = ⟨(crlf cs).length, fault, token, entry⟩) : SamePiece read cs := by
  rw [← List.append_nil cs]
  refine @whole read cs [] fault token entry ?_ ?_
  · rwa [List.append_nil]
  · rwa [crlf_nil, List.append_nil]

/-- A reader that stops in the first line sees no line end at all. -/
theorem of_line {read : List Char → Segment} {a rest : List Char} (line : '\n' ∉ a)
    (here : read (a ++ rest) = read a) (there : read (a ++ crlf rest) = read a)
    (within : (read a).size ≤ a.length) : SamePiece read (a ++ rest) := by
  have taken : '\n' ∉ a.take (read a).size := fun mem => line (List.mem_of_mem_take mem)
  have length : (a.take (read a).size).length = (read a).size := List.length_take_of_le within
  have split : a ++ rest = a.take (read a).size ++ (a.drop (read a).size ++ rest) := by
    rw [← List.append_assoc, List.take_append_drop]
  have text : crlf (a.take (read a).size) ++ crlf (a.drop (read a).size ++ rest) = a ++ crlf rest := by
    rw [← crlf_append, ← split, crlf_append, crlf_of_notMem line]
  rw [split]
  refine @whole read _ _ (read a).fault (read a).token (read a).entry ?_ ?_
  · rw [← split, here, length]
  · rw [text, there, crlf_of_notMem taken, length]

/-- A reader that whitespace stops stops in the first line. -/
theorem of_white {read : List Char → Segment} {c : Char} (solid : c ≠ '\n')
    (stops : ∀ {d : Char}, isWhitespace d → ∀ b a, read (c :: a ++ d :: b) = read (c :: a))
    (within : ∀ a, (read (c :: a)).size ≤ (c :: a).length) (r : List Char) :
    SamePiece read (c :: r) := by
  by_cases feed : '\n' ∈ r
  · obtain ⟨a, b, rfl, line⟩ := List.eq_append_cons_of_mem feed
    have line : '\n' ∉ c :: a := by simp [solid.symm, line]
    exact of_line line (stops rfl b a) (stops rfl ('\n' :: crlf b) a) (within a)
  · have line : '\n' ∉ c :: r := by simp [solid.symm, feed]
    have all : c :: r ++ [] = c :: r := List.append_nil _
    have same := @of_line read (c :: r) [] line (by rw [all]) (by rw [crlf_nil, all]) (within r)
    rwa [all] at same

/-- A comment up to the end of its line takes the carriage return along. -/
theorem lineComment (r : List Char) : SamePiece Segment.lineComment ('/' :: '/' :: r) := by
  by_cases feed : '\n' ∈ r
  · obtain ⟨body, b, rfl, plain⟩ := List.eq_append_cons_of_mem feed
    have line : '\n' ∉ '/' :: '/' :: body := by simp [plain]
    have back : '\n' ∉ body ++ ['\r'] := by simp [plain]
    have text : '/' :: '/' :: body ++ '\r' :: '\n' :: crlf b
        = '/' :: '/' :: (body ++ ['\r']) ++ '\n' :: crlf b := by simp
    refine .beforeFeed (lineComment_eq plain rfl) ?_
    rw [crlf_of_notMem line, text, lineComment_eq back rfl]
    simp
  · have line : '\n' ∉ '/' :: '/' :: r := by simp [feed]
    have all : Segment.lineComment ('/' :: '/' :: r ++ []) = _ := lineComment_eq feed rfl
    rw [List.append_nil] at all
    exact of_all all (by rw [crlf_of_notMem line, all])

theorem blockComment (r : List Char) : SamePiece Segment.blockComment ('/' :: '*' :: r) := by
  have same (cs : List Char) : ['*', '/'] <:+: crlf cs ↔ ['*', '/'] <:+: cs :=
    infix_crlf_iff (by decide) (by decide)
  cases close : throughClose r with
  | none =>
    have never := throughClose_eq_none_iff.1 close
    exact of_all (blockComment_open never) (blockComment_open (mt (same r).1 never))
  | some n =>
    obtain ⟨body, rest, rfl, first⟩ := exists_of_throughClose close
    have first' : ¬ ['*', '/'] <:+: crlf body ++ ['*'] := by
      have text : crlf (body ++ ['*']) = crlf body ++ ['*'] := crlf_append body ['*']
      rw [← text, same]
      exact first
    have text : crlf ('/' :: '*' :: (body ++ ['*', '/'])) = '/' :: '*' :: (crlf body ++ ['*', '/']) :=
      congrArg (fun cs => '/' :: '*' :: cs) (crlf_append body ['*', '/'])
    have split : '/' :: '*' :: (body ++ '*' :: '/' :: rest)
        = '/' :: '*' :: (body ++ ['*', '/']) ++ rest := by simp
    rw [split]
    refine .whole (blockComment_closed first) ?_
    rw [text]
    exact blockComment_closed first'

/-- What stands between quotes is in one line. -/
theorem feed_notMem_items {items : List (List Char)} (good : ∀ item ∈ items, StringItem item) :
    '\n' ∉ items.flatten := by
  intro mem
  obtain ⟨item, member, inside⟩ := List.mem_flatten.1 mem
  rcases good item member with ⟨c, rfl, -, -, feed⟩ | ⟨c, rfl, feed⟩
  · simp [feed.symm] at inside
  · simp [feed.symm] at inside

/-- A string that breaks off at a line feed has the carriage return as its last character, which
a backslash before it takes along. -/
theorem string (r : List Char) : SamePiece Segment.string ('"' :: r) := by
  obtain ⟨items, good, ⟨rest, rfl⟩ | ⟨slash, stop, rest, rfl, escape, ends⟩⟩ := exists_items r
  · have line : '\n' ∉ '"' :: (items.flatten ++ ['"']) := by simp [feed_notMem_items good]
    have split : '"' :: (items.flatten ++ '"' :: rest) = '"' :: (items.flatten ++ ['"']) ++ rest := by
      simp
    rw [split]
    refine .whole (string_closed good) ?_
    rw [crlf_of_notMem line]
    exact string_closed good
  · have before : '\n' ∉ '"' :: (items.flatten ++ slash) := by
      rcases escape with rfl | rfl <;> simp [feed_notMem_items good]
    refine @whole _ ('"' :: (items.flatten ++ (slash ++ stop))) rest _ _ _
      (string_broken good escape ends) ?_
    rcases ends with rfl | ⟨rfl, rfl⟩
    · -- The backslash, if there is one, takes the return, and the line feed ends the string.
      have last : StringItem (slash ++ ['\r']) := by
        rcases escape with rfl | rfl
        · exact .inl ⟨'\r', rfl, by decide, by decide, by decide⟩
        · exact .inr ⟨'\r', rfl, by decide⟩
      have good' : ∀ item ∈ items ++ [slash ++ ['\r']], StringItem item := by
        simpa [or_imp, forall_and] using ⟨good, last⟩
      have text : crlf ('"' :: (items.flatten ++ (slash ++ ['\n'])))
          = '"' :: ((items ++ [slash ++ ['\r']]).flatten ++ ([] ++ ['\n'])) := by
        rw [← List.append_assoc, ← List.cons_append, crlf_append, crlf_of_notMem before]
        simp
      rw [text]
      exact string_broken good' (.inl rfl) (.inl rfl)
    · have broken := string_broken good escape (.inr ⟨rfl, rfl⟩)
      simp only [List.append_nil] at broken
      simpa [crlf_of_notMem before] using broken

theorem number {c : Char} (solid : c ≠ '\n') (r : List Char) : SamePiece Segment.number (c :: r) :=
  of_white solid (fun white b a => number_append_white white b (c :: a))
    (fun a => number_size_le (c :: a)) r

theorem word {c : Char} (solid : c ≠ '\n') (r : List Char) : SamePiece Segment.word (c :: r) :=
  of_white solid (fun white b a => word_append_white white b (c :: a))
    (fun a => word_size_le (c :: a)) r

theorem symbol {c : Char} (solid : c ≠ '\n') (r : List Char) :
    SamePiece (Segment.symbol (String.ofList [c])) (c :: r) :=
  of_white solid (fun white b a => symbol_append_white white b c a) (fun a => symbol_size_le c a) r

/-- Every segment but a line feed is the same piece of both texts. -/
theorem next {c : Char} (solid : c ≠ '\n') (r : List Char) : SamePiece Segment.next (c :: r) := by
  have dispatch {read : List Char → Segment} (h : SamePiece read (c :: r))
      (here : Segment.next (c :: r) = read (c :: r))
      (there : Segment.next (c :: crlf r) = read (c :: crlf r)) : SamePiece Segment.next (c :: r) :=
    h.congr here (by rwa [crlf_cons solid])
  by_cases white : isWhitespace c
  · have blank (r : List Char) : Segment.next (c :: r) = ⟨1, none, none, none⟩ := if_pos white
    have one : crlf [c] = [c] := crlf_cons solid []
    exact @whole _ [c] r none none none (blank r) (by rw [one]; exact blank (crlf r))
  by_cases digit : isDigit c
  · exact dispatch (number solid r) (next_number r digit) (next_number (crlf r) digit)
  by_cases letter : isLetter c
  · exact dispatch (word solid r) (next_word r letter) (next_word (crlf r) letter)
  by_cases quote : c = '"'
  · subst quote
    exact dispatch (string r) rfl rfl
  by_cases comment : c = '/' → r.head? ≠ some '/' ∧ r.head? ≠ some '*'
  · have sign : isSign c := by simp [isSign, white, quote, digit, letter]
    have comment' : c = '/' → (crlf r).head? ≠ some '/' ∧ (crlf r).head? ≠ some '*' := by
      rwa [Ne, Ne, head?_crlf (by decide) (by decide), head?_crlf (by decide) (by decide)]
    exact dispatch (symbol solid r) (next_sign sign comment) (next_sign sign comment')
  · obtain ⟨rfl, second⟩ := Classical.not_imp.1 comment
    rw [not_and_or, Ne, not_not, Ne, not_not] at second
    rcases second with second | second
    · obtain ⟨r, rfl⟩ := List.head?_eq_some_iff.1 second
      exact dispatch (lineComment r) rfl rfl
    · obtain ⟨r, rfl⟩ := List.head?_eq_some_iff.1 second
      exact dispatch (blockComment r) rfl rfl

end SamePiece

end Segment

/-! ## The same tokens -/

/-- The tokens and the errors are the same, and stand where they stood. -/
theorem segments_crlf (p : Position) (cs : List Char) :
    (segments p (crlf cs)).filterMap (·.token?) = (segments p cs).filterMap (·.token?) ∧
      (segments p (crlf cs)).filterMap (·.error?) = (segments p cs).filterMap (·.error?) := by
  fun_induction segments p cs with
  | case1 => simp [segments]
  | case2 p c r s ih =>
    by_cases feed : c = '\n'
    · -- Two blanks in place of one.
      subst feed
      rw [crlf_feed, segments_white rfl, segments_white rfl]
      exact ih
    have size : 0 < s.size := Segment.next_size_pos c r
    have same := Segment.SamePiece.next feed r
    have next : Segment.next (c :: r) = s := rfl
    clear_value s
    generalize c :: r = cs at *
    cases same with
    | @whole piece rest fault token entry here there =>
      obtain rfl := next.symm.trans here
      have ne : crlf piece ≠ [] := crlf_ne_nil (List.ne_nil_of_length_pos size)
      rw [List.take_left, List.drop_left] at ih ⊢
      rw [crlf_append, segments_piece ne there, Position.past_crlf]
      simp only [filterMap_cons_toList, ih]
      exact ⟨rfl, rfl⟩
    | @beforeFeed piece b fault token entry here there =>
      -- The segment takes the return, and the line feed is a blank of its own.
      obtain rfl := next.symm.trans here
      have ne : crlf piece ++ ['\r'] ≠ [] := by simp
      have length : (crlf piece ++ ['\r']).length = (crlf piece).length + 1 := List.length_append
      rw [List.append_cons, ← length] at there
      have place : p.past (crlf piece ++ ['\r']) = (p.past piece).after '\r' := by
        rw [Position.past_append, Position.past_crlf]
        rfl
      rw [List.take_left, List.drop_left] at ih ⊢
      rw [crlf_feed, segments_white rfl] at ih
      rw [crlf_append, crlf_feed, List.append_cons, segments_piece ne there, place]
      simp only [filterMap_cons_toList] at ih ⊢
      exact ⟨congrArg _ ih.1, congrArg _ ih.2⟩

theorem tokenize_crlf (source : String) :
    tokenize (String.ofList (crlf source.toList)) = tokenize source := by
  have parts (text : String) : tokenize text =
      ⟨(segments .start text.toList).filterMap (·.token?),
        (segments .start text.toList).filterMap (·.error?),
        (Tally.recordAll []
          (identifiers ((segments .start text.toList).filterMap (·.token?)))).sorted⟩ :=
    congrArg (Lexed.mk _ _) (tokenize_symbols text)
  obtain ⟨tokens, errors⟩ := segments_crlf .start source.toList
  rw [parts, parts, String.toList_ofList, tokens, errors]

/-! ## The same lines in print -/

namespace Text

theorem splitLines_stop {c : Char} (stop : isLineBreak c) (other : c ≠ '\r') (r : List Char) :
    splitLines (c :: r) = [] :: splitLines r := by
  rw [splitLines.eq_def]
  split
  · next h => exact absurd h (List.cons_ne_nil c r)
  · next h =>
    obtain ⟨back, -⟩ := List.cons.inj h
    exact absurd back other
  · next h =>
    obtain ⟨rfl, rfl⟩ := List.cons.inj h
    rw [if_pos stop]

/-- Where each carriage return stands before a line feed, the two end one line. -/
theorem splitLines_crlf {cs : List Char} (single : '\r' ∉ cs) :
    splitLines (crlf cs) = splitLines cs := by
  induction cs with
  | nil => rfl
  | cons c r ih =>
    rw [List.mem_cons, not_or] at single
    by_cases feed : c = '\n'
    · subst feed
      rw [splitLines_stop rfl (by decide), ← ih single.2]
      rfl
    rw [crlf_cons feed]
    by_cases stop : isLineBreak c
    · have other : c ≠ '\r' := Ne.symm single.1
      rw [splitLines_stop stop other, splitLines_stop stop other, ih single.2]
    · rw [splitLines_cons stop, splitLines_cons stop, ih single.2]

end Text

/-! ## The same analysis -/

/-- A text without carriage returns, and the text with one before each of its line feeds: the
tokens, the errors and the symbols are the same, with their positions; so is the analysis under
any limit, what is reported on the way included; and any diagnostic is shown the same way. -/
theorem analysis_crlf (source : String) (single : '\r' ∉ source.toList) :
    let paired := String.ofList (crlf source.toList)
    tokenize paired = tokenize source ∧
      (∀ asked, analyzeLogged paired asked = analyzeLogged source asked) ∧
      (∀ limit, analyze paired limit = analyze source limit) ∧
      ∀ (d : Diagnostic) (label : String), d.render paired label = d.render source label := by
  intro paired
  have same : tokenize paired = tokenize source := tokenize_crlf source
  refine ⟨same, analyzeLogged_congr same, fun limit => ?_, fun d label => ?_⟩
  · unfold analyze
    rw [same]
  · have line : d.lineOf? paired = d.lineOf? source := by
      unfold Diagnostic.lineOf?
      rw [String.toList_ofList, Text.splitLines_crlf single]
    unfold Diagnostic.render
    rw [line]

/-- Line ends behind the backslash of a broken string, inside a comment and behind one: the text is
read as with line feeds alone, and an error in its last line is shown with that line. -/
theorem a_text_with_each_line_end :
    let source := "x = \"a\\\n/* b\n*/ // c\n\tx 1z"
    let paired := String.ofList (crlf source.toList)
    let d : Diagnostic := ⟨"invalid number: '1z'", ⟨4, 4⟩⟩
    '\r' ∉ source.toList ∧ paired = "x = \"a\\\r\n/* b\r\n*/ // c\r\n\tx 1z" ∧
      tokenize paired
        = ⟨[⟨.identifier, "x", ⟨1, 1⟩⟩, ⟨.operator, "=", ⟨1, 3⟩⟩, ⟨.identifier, "x", ⟨4, 2⟩⟩,
            ⟨.number, "1", ⟨4, 4⟩⟩],
          [⟨.unterminatedString, ⟨1, 5⟩⟩, ⟨.invalidNumber "1z", ⟨4, 4⟩⟩],
          [⟨"x", 2, ⟨1, 1⟩⟩]⟩ ∧
      analyzeLogged paired 150 = analyzeLogged source 150 ∧
      analyze paired 150 = analyze source 150 ∧
      d.render paired "LexError"
        = "LexError at line 4, column 4: invalid number: '1z'\n   4 |  x 1z\n          ^" := by
  intro source paired d
  have single : '\r' ∉ source.toList := by decide
  have text : paired = "x = \"a\\\r\n/* b\r\n*/ // c\r\n\tx 1z" := by decide +kernel
  obtain ⟨tokens, logged, analyzed, shown⟩ := analysis_crlf source single
  refine ⟨single, text, tokens.trans ?_, logged 150, analyzed 150, (shown d "LexError").trans ?_⟩
  · decide +kernel
  · decide +kernel

end MiniC
