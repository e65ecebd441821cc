/-
  MiniC.Proofs.Excerpt — a diagnostic shown with the line it is about.

  Positions count lines by line feeds. An excerpt cuts the text as it is in print, where more
  characters end a line: a carriage return that no line feed follows, a vertical tab, a form
  feed, and others. Such a character is possible in a comment or a string. Where no line up to
  that of a diagnostic has one (`Text.IsPlain`), the two counts are one.

  Proved:
  - `splitLines_passed`: plain lines are cut the same way.
  - `located_of_diagnostic`: every diagnostic stands at a character that is no whitespace.
  - `diagnostics_shown_iff`: where the lines before it are plain, a diagnostic is shown with its
    line and the caret under its character exactly when that line is plain, too.
  - `a_form_feed_shows_another_line`: where they are not, another line is shown.
-/

import Mathlib.Data.List.TakeWhile
import MiniC.Diagnostic.Excerpt
import MiniC.Proofs.Analysis
import MiniC.Proofs.Layout.Reading
import MiniC.Proofs.Lexer.Segmentation

namespace MiniC

open Vocabulary

/-! ## Lines in print -/

namespace Text

/-- The line without the carriage return at its end. -/
def dropReturn (line : List Char) : List Char :=
  if line.getLast? = some '\r' then line.dropLast else line

/-- Nothing in the line ends it in print, but for a carriage return at its end. -/
def IsPlain (line : List Char) : Prop := ∀ c ∈ dropReturn line, ¬ isLineBreak c

instance (line : List Char) : Decidable (IsPlain line) := List.decidableBAll _ (dropReturn line)

/-- What stands before the first character that ends a line in print. -/
def upToBreak (cs : List Char) : List Char := cs.takeWhile fun c => !isLineBreak c

/-- The lines with their line feeds. -/
def fed (lines : List (List Char)) : List Char := lines.flatMap (· ++ ['\n'])

theorem dropReturn_cases (line : List Char) :
    line = dropReturn line ∨ line = dropReturn line ++ ['\r'] := by
  unfold dropReturn
  by_cases ends : line.getLast? = some '\r'
  · obtain ⟨body, rfl⟩ := List.getLast?_eq_some_iff.1 ends
    rw [if_pos ends, List.dropLast_concat]
    exact .inr rfl
  · exact .inl (if_neg ends).symm

theorem upToBreak_dropReturn (line : List Char) : upToBreak (dropReturn line) = upToBreak line := by
  rcases dropReturn_cases line with same | ends
  · rw [← same]
  · have cut : upToBreak (dropReturn line ++ ['\r']) = upToBreak (dropReturn line) :=
      takeWhile_append_cons (by decide)
    rw [← cut, ← ends]

/-- A line feed ends a line in print, too. -/
theorem upToBreak_takeWhile (cs : List Char) :
    upToBreak (cs.takeWhile (· != '\n')) = upToBreak cs := by
  unfold upToBreak
  rw [List.takeWhile_takeWhile]
  congr 1
  funext c
  by_cases feed : c = '\n'
  · subst feed
    rfl
  · rw [bne_iff_ne.2 feed]
    simp

theorem upToBreak_eq_iff {line : List Char} :
    upToBreak line = dropReturn line ↔ IsPlain line := by
  rw [← upToBreak_dropReturn, upToBreak, List.takeWhile_eq_self_iff]
  simp [IsPlain]

theorem head?_splitLines_stop {c : Char} (stop : isLineBreak c) (r : List Char) :
    (splitLines (c :: r)).head? = some [] := by
  rw [splitLines.eq_def]
  split
  · next h => exact absurd h (List.cons_ne_nil c r)
  · rfl
  · next h =>
    obtain ⟨rfl, rfl⟩ := List.cons.inj h
    rw [if_pos stop]
    rfl

theorem splitLines_cons {c : Char} (plain : ¬ isLineBreak c) (r : List Char) :
    splitLines (c :: r) = (c :: (splitLines r).head?.getD []) :: (splitLines r).tail := by
  rw [splitLines.eq_def]
  split
  · next h => exact absurd h (List.cons_ne_nil c r)
  · next h =>
    obtain ⟨rfl, rfl⟩ := List.cons.inj h
    exact absurd rfl plain
  · next h =>
    obtain ⟨rfl, rfl⟩ := List.cons.inj h
    rw [if_neg plain]
    cases splitLines r <;> rfl

/-- In print a line goes up to the first character that ends it. -/
theorem head?_splitLines {cs : List Char} (ne : cs ≠ []) :
    (splitLines cs).head? = some (upToBreak cs) := by
  induction cs with
  | nil => exact absurd rfl ne
  | cons c r ih =>
    by_cases stop : isLineBreak c
    · simp [head?_splitLines_stop stop, upToBreak, stop]
    · have later : (splitLines r).head?.getD [] = upToBreak r := by
        by_cases nil : r = []
        · subst nil
          rfl
        · rw [ih nil]
          rfl
      rw [splitLines_cons stop, later]
      simp [upToBreak, stop]

theorem splitLines_append {body s : List Char} {ls : List (List Char)}
    (plain : ∀ c ∈ body, ¬ isLineBreak c) (ends : splitLines s = [] :: ls) :
    splitLines (body ++ s) = body :: ls := by
  induction body with
  | nil => exact ends
  | cons c body ih =>
    obtain ⟨head, tail⟩ := List.forall_mem_cons.1 plain
    rw [List.cons_append, splitLines_cons head, ih tail]
    rfl

/-- A plain line is cut at its line feed, the carriage return before that included. -/
theorem splitLines_line {line : List Char} (plain : IsPlain line) (rest : List Char) :
    splitLines (line ++ '\n' :: rest) = dropReturn line :: splitLines rest := by
  rcases dropReturn_cases line with same | ends
  · have feed : splitLines ('\n' :: rest) = [] :: splitLines rest := rfl
    rw [← splitLines_append plain feed, ← same]
  · have feed : splitLines ('\r' :: '\n' :: rest) = [] :: splitLines rest := rfl
    rw [← splitLines_append plain feed, List.append_cons (dropReturn line), ← ends]

theorem splitLines_passed {lines : List (List Char)} (plain : ∀ l ∈ lines, IsPlain l)
    (rest : List Char) :
    splitLines (fed lines ++ rest) = lines.map dropReturn ++ splitLines rest := by
  induction lines with
  | nil => rfl
  | cons l ls ih =>
    obtain ⟨head, tail⟩ := List.forall_mem_cons.1 plain
    have text : fed (l :: ls) ++ rest = l ++ '\n' :: (fed ls ++ rest) := by simp [fed]
    rw [text, splitLines_line head, ih tail]
    rfl

/-! ## Lines by line feeds -/

/-- A text up to some place is lines that have ended, and the part of a line. -/
theorem exists_fed (cs : List Char) :
    ∃ lines part, cs = fed lines ++ part ∧ (∀ l ∈ lines, '\n' ∉ l) ∧ '\n' ∉ part := by
  induction cs with
  | nil => exact ⟨[], [], rfl, fun _ mem => absurd mem List.not_mem_nil, List.not_mem_nil⟩
  | cons c cs ih =>
    obtain ⟨lines, part, rfl, whole, unended⟩ := ih
    by_cases feed : c = '\n'
    · refine ⟨[] :: lines, part, by simp [fed, feed], ?_, unended⟩
      exact List.forall_mem_cons.2 ⟨List.not_mem_nil, whole⟩
    · cases lines with
      | nil => exact ⟨[], c :: part, rfl, whole, by simp [unended, Ne.symm feed]⟩
      | cons l ls =>
        obtain ⟨first, whole⟩ := List.forall_mem_cons.1 whole
        refine ⟨(c :: l) :: ls, part, rfl, List.forall_mem_cons.2 ⟨?_, whole⟩, unended⟩
        simp [first, Ne.symm feed]

theorem splitOn_fed {lines : List (List Char)} (whole : ∀ l ∈ lines, '\n' ∉ l) (rest : List Char) :
    (fed lines ++ rest).splitOn '\n' = lines ++ rest.splitOn '\n' := by
  induction lines with
  | nil => rfl
  | cons l ls ih =>
    obtain ⟨first, whole⟩ := List.forall_mem_cons.1 whole
    have text : fed (l :: ls) ++ rest = l ++ '\n' :: (fed ls ++ rest) := by simp [fed]
    rw [text, List.splitOn_append_cons_self_of_not_mem first, ih whole]
    rfl

theorem head?_splitOn (cs : List Char) :
    (cs.splitOn '\n').head? = some (cs.takeWhile (· != '\n')) := by
  induction cs with
  | nil => rfl
  | cons c cs ih =>
    rw [List.splitOn_cons_eq_if_modifyHead]
    by_cases feed : c = '\n'
    · simp [feed]
    · simp [feed, ih]

/-- Behind lines that have ended a new one starts. -/
theorem placeAfter_fed {lines : List (List Char)} {part : List Char} (whole : ∀ l ∈ lines, '\n' ∉ l)
    (unended : '\n' ∉ part) :
    placeAfter (fed lines ++ part) = ⟨1 + lines.length, 1 + part.length⟩ := by
  have feeds : (fed lines ++ part).count '\n' = lines.length := by
    rw [List.count_append, List.count_eq_zero.2 unended, Nat.add_zero, fed, List.count_flatMap]
    have one : ∀ l ∈ lines, (List.count '\n' ∘ (· ++ ['\n'])) l = 1 := fun l mem => by
      simp [List.count_eq_zero.2 (whole l mem)]
    rw [List.map_congr_left one]
    simp
  have last : (fed lines ++ part).reverse.takeWhile (· ≠ '\n') = part.reverse := by
    have inside : ∀ c ∈ part.reverse, decide (c ≠ '\n') := fun c mem =>
      decide_eq_true fun feed => unended (feed ▸ List.mem_reverse.1 mem)
    rw [List.reverse_append, List.takeWhile_append_of_pos inside]
    rcases List.eq_nil_or_concat lines with rfl | ⟨earlier, l, rfl⟩
    · simp [fed]
    · simp [fed]
  unfold placeAfter
  rw [feeds, last, List.length_reverse]

end Text

/-! ## What is shown -/

/-- The diagnostics of an analysis, kind by kind. -/
def Analysis.diagnostics (a : Analysis) : List Diagnostic :=
  a.lexErrors.map (·.diagnostic) ++ a.syntaxErrors.map (·.diagnostic)
    ++ a.semanticErrors.map (·.diagnostic)

namespace Diagnostic

/-- The diagnostic stands at a character `c` of the text, and by line feeds that character is in
the line and the column that the diagnostic names; `content` is that line. -/
structure StandsIn (d : Diagnostic) (source : String) (content : List Char) (c : Char) : Prop where
  place : ∃ before after, source.toList = before ++ c :: after ∧ d.position = placeAfter before
  inLine : 1 ≤ d.position.line ∧
    (source.toList.splitOn '\n')[(d.position.line - 1).toNat]? = some content
  inColumn : 1 ≤ d.position.column ∧ content[(d.position.column - 1).toNat]? = some c

/-- The lines before that of the diagnostic. -/
def passed (d : Diagnostic) (source : String) : List (List Char) :=
  (source.toList.splitOn '\n').take (d.position.line - 1).toNat

/-- The line behind the gutter, tabs as single spaces. -/
def excerpt (d : Diagnostic) (line : List Char) : String :=
  gutter d.position.line
    ++ String.ofList ((Text.dropReturn line).map fun c => if c = '\t' then ' ' else c)

/-- The diagnostic is shown as its header, the line and the caret, which stands under `c`. -/
structure Shows (d : Diagnostic) (source label : String) (line : List Char) (c : Char) : Prop where
  text : d.render source label = "\n".intercalate [d.header label, d.excerpt line, d.caret]
  under : (d.excerpt line).toList[d.caret.toList.idxOf '^']? = some c

variable {d : Diagnostic} {source label : String} {line : List Char} {c : Char}

/-- Where a diagnostic stands, some lines have ended, and the line that it names goes on from
there to the next line feed. -/
theorem exists_lines {before after : List Char} (text : source.toList = before ++ c :: after)
    (place : d.position = placeAfter before) :
    ∃ lines part, source.toList = Text.fed lines ++ (part ++ c :: after) ∧ '\n' ∉ part ∧
      d.position.line = 1 + lines.length ∧ d.position.column = 1 + part.length ∧
      d.passed source = lines ∧
      (source.toList.splitOn '\n')[(d.position.line - 1).toNat]?
        = some ((part ++ c :: after).takeWhile (· != '\n')) := by
  obtain ⟨lines, part, rfl, whole, unended⟩ := Text.exists_fed before
  rw [Text.placeAfter_fed whole unended] at place
  have row : d.position.line = 1 + lines.length := congrArg Position.line place
  have index : (d.position.line - 1).toNat = lines.length := by omega
  rw [List.append_assoc] at text
  refine ⟨lines, part, text, unended, row, congrArg Position.column place, ?_, ?_⟩
  · rw [passed, index, text, Text.splitOn_fed whole, List.take_left]
  · rw [index, text, Text.splitOn_fed whole, List.getElem?_append_right (Nat.le_refl _), Nat.sub_self,
      ← List.head?_eq_getElem?, Text.head?_splitOn]

/-- A diagnostic at a character is in the line and the column that it names. -/
theorem exists_standsIn {before after : List Char} (text : source.toList = before ++ c :: after)
    (place : d.position = placeAfter before) (visible : c ≠ '\n') :
    ∃ line, d.StandsIn source line c := by
  obtain ⟨lines, part, -, unended, row, column, -, inLine⟩ := exists_lines text place
  have goesOn : ∀ x ∈ part ++ [c], (x != '\n') = true := by
    intro x mem
    rw [bne_iff_ne]
    rintro rfl
    rcases List.mem_append.1 mem with mem | mem
    · exact unended mem
    · exact visible (List.mem_singleton.1 mem).symm
  have line : (part ++ c :: after).takeWhile (· != '\n')
      = part ++ c :: after.takeWhile (· != '\n') := by
    rw [List.append_cons, List.takeWhile_append_of_pos goesOn, ← List.append_cons]
  have index : (d.position.column - 1).toNat = part.length := by omega
  refine ⟨_, ⟨before, after, text, place⟩, ⟨by omega, inLine⟩, by omega, ?_⟩
  rw [line, index, List.getElem?_append_right (Nat.le_refl _), Nat.sub_self]
  rfl

/-- The caret stands as far to the right as the column behind the gutter. -/
theorem idxOf_caret (d : Diagnostic) :
    d.caret.toList.idxOf '^'
      = (gutter d.position.line).length + (d.position.column - 1).toNat := by
  have blanks (n : Nat) : (List.replicate n ' ' ++ ['^']).idxOf '^' = n := by
    rw [List.idxOf_append_of_notMem (by simp), List.length_replicate]
    rfl
  have text : d.caret.toList = List.replicate
      ((gutter d.position.line).length + (d.position.column - 1).toNat) ' ' ++ ['^'] := by
    simp [caret]
  rw [text, blanks]

/-- The caret stands under the character. -/
theorem StandsIn.under (h : d.StandsIn source line c) (visible : ¬ isWhitespace c) :
    (d.excerpt line).toList[d.caret.toList.idxOf '^']? = some c := by
  have solid : c ≠ '\r' ∧ c ≠ '\t' := by
    constructor <;> rintro rfl <;> exact visible (by decide)
  have kept : (Text.dropReturn line)[(d.position.column - 1).toNat]? = some c := by
    have at_ := h.inColumn.2
    rcases Text.dropReturn_cases line with same | ends
    · rwa [same] at at_
    · rw [ends, List.getElem?_append] at at_
      split at at_
      · exact at_
      · exact absurd (List.mem_singleton.1 (List.mem_of_getElem? at_)) solid.1
  rw [idxOf_caret, excerpt, String.toList_append, ← String.length_toList, List.getElem?_append_right
    (Nat.le_add_right _ _), Nat.add_sub_cancel_left, String.toList_ofList, List.getElem?_map, kept]
  simp [solid.2]

/-- Behind plain lines the line in print is that of the diagnostic, up to the first character
that ends it in print. -/
theorem StandsIn.lineOf? (h : d.StandsIn source line c)
    (plain : ∀ earlier ∈ d.passed source, Text.IsPlain earlier) :
    d.lineOf? source = some (Text.upToBreak line) := by
  obtain ⟨before, after, text, place⟩ := h.place
  obtain ⟨lines, part, text, -, row, -, passed, inLine⟩ := exists_lines text place
  rw [passed] at plain
  have first : (part ++ c :: after).takeWhile (· != '\n') = line :=
    Option.some.inj (inLine.symm.trans h.inLine.2)
  have index : (d.position.line - 1).toNat = lines.length := by omega
  have ne : part ++ c :: after ≠ [] := by simp
  rw [Diagnostic.lineOf?, if_pos h.inLine.1, index, text, Text.splitLines_passed plain,
    List.getElem?_append_right (by simp), List.length_map, Nat.sub_self, ← List.head?_eq_getElem?,
    Text.head?_splitLines ne, ← Text.upToBreak_takeWhile, first]

/-- Behind plain lines a diagnostic is shown with its line exactly when that is plain, too. -/
theorem StandsIn.shows_iff (h : d.StandsIn source line c) (visible : ¬ isWhitespace c)
    (plain : ∀ earlier ∈ d.passed source, Text.IsPlain earlier) :
    d.Shows source label line c ↔ Text.IsPlain line := by
  have rendered : d.render source label = "\n".intercalate [d.header label,
      gutter d.position.line
        ++ String.ofList ((Text.upToBreak line).map fun c => if c = '\t' then ' ' else c),
      d.caret] := by
    rw [render, h.lineOf? plain]
  rw [← Text.upToBreak_eq_iff]
  constructor
  · -- What is shown of the line is as long as the line, so it is all of it.
    intro shows
    have joined (a b c : String) : "\n".intercalate [a, b, c] = a ++ "\n" ++ b ++ "\n" ++ c := rfl
    have length := congrArg String.length (rendered.symm.trans shows.text)
    simp only [joined, excerpt, String.length_append, String.length_ofList, List.length_map] at length
    rw [← Text.upToBreak_dropReturn] at length ⊢
    exact (List.takeWhile_prefix _).eq_of_length (by unfold Text.upToBreak at length; omega)
  · intro whole
    refine ⟨?_, h.under visible⟩
    rw [rendered, whole, excerpt]

end Diagnostic

/-! ## Where diagnostics stand -/

/-- Every segment of a text is read at some place of it, and under the position of that place. -/
theorem segments_at (before cs : List Char) {s : Placed} (mem : s ∈ segments (placeAfter before) cs) :
    ∃ earlier c r, before ++ cs = earlier ++ c :: r ∧
      s = ⟨Segment.next (c :: r), placeAfter earlier⟩ := by
  generalize at_ : placeAfter before = p at mem
  fun_induction segments p cs generalizing before with
  | case1 => exact absurd mem List.not_mem_nil
  | case2 p c r first ih =>
    subst at_
    rcases List.mem_cons.1 mem with rfl | mem
    · exact ⟨before, c, r, rfl, rfl⟩
    · obtain ⟨earlier, d, r', text, place⟩ :=
        ih (before ++ (c :: r).take first.size) (placeAfter_append _ _) mem
      rw [List.append_assoc, List.take_append_drop] at text
      exact ⟨earlier, d, r', text, place⟩

/-- Whitespace is no token and no fault. -/
theorem Segment.not_isWhitespace {c : Char} {r : List Char}
    (found : Segment.next (c :: r) ≠ Segment.blank) : ¬ isWhitespace c := by
  intro white
  rw [Segment.next, if_pos white] at found
  exact found rfl

/-- The position is that of a character of the text which is no whitespace. -/
def Located (source : String) (p : Position) : Prop :=
  ∃ before c after, source.toList = before ++ c :: after ∧ p = placeAfter before ∧ ¬ isWhitespace c

section
variable {source : String}

theorem located_of_segment {s : Placed} (mem : s ∈ segments .start source.toList)
    (found : s.segment ≠ Segment.blank) : Located source s.position := by
  obtain ⟨before, c, r, text, rfl⟩ := segments_at [] source.toList mem
  exact ⟨before, c, r, text, rfl, Segment.not_isWhitespace found⟩

theorem located_of_lexError {e : LexError} (mem : e ∈ (tokenize source).errors) :
    Located source e.position := by
  obtain ⟨s, read, fault⟩ := List.mem_filterMap.1 mem
  obtain ⟨_, some, rfl⟩ := Option.map_eq_some_iff.1 fault
  refine located_of_segment read fun blank => ?_
  rw [blank] at some
  exact absurd some (Option.some_ne_none _).symm

theorem located_of_token {p : Position} (mem : p ∈ (tokenize source).tokens.map (·.position)) :
    Located source p := by
  obtain ⟨t, member, rfl⟩ := List.mem_map.1 mem
  obtain ⟨s, read, token⟩ := List.mem_filterMap.1 member
  obtain ⟨_, some, rfl⟩ := Option.map_eq_some_iff.1 token
  refine located_of_segment read fun blank => ?_
  rw [blank] at some
  exact absurd some (Option.some_ne_none _).symm

/-- Every diagnostic stands at a character that is no whitespace: a lexical error where a segment
starts, any other at a token. -/
theorem located_of_diagnostic {limit : Nat} {d : Diagnostic}
    (mem : d ∈ (analyze source limit).diagnostics) : Located source d.position := by
  by_cases clean : (tokenize source).errors = []
  · rw [analyze_clean clean] at mem
    simp only [Analysis.diagnostics, Analysis.ofParsed, clean, List.map_nil, List.nil_append,
      List.mem_append, List.mem_map] at mem
    rcases mem with ⟨e, mem, rfl⟩ | ⟨e, mem, rfl⟩
    · rw [parse_errors] at mem
      exact located_of_token (position_mem_of_fault mem)
    · rw [(parse_variables (tokenize_inOrder source) limit).2] at mem
      obtain ⟨⟨v, w⟩, refused, rfl⟩ := List.mem_map.1 mem
      exact located_of_token (position_mem_of_variable (mem_of_mem_repeats refused).1).1
  · have unparsed : analyze source limit = .unparsed (tokenize source) :=
      if_neg fun empty => clean (List.isEmpty_iff.1 empty)
    rw [unparsed] at mem
    simp only [Analysis.diagnostics, Analysis.unparsed, List.map_nil, List.append_nil,
      List.mem_map] at mem
    obtain ⟨e, mem, rfl⟩ := mem
    exact located_of_lexError mem

end

/-- Every diagnostic of an analysis stands at a character of the text, in the line and the column
that it names. If the lines before that are plain, then it is shown with its line, and with the
caret under its character, exactly when its line is plain. -/
theorem diagnostics_shown_iff (source label : String) {asked : Int} (positive : 1 ≤ asked) :
    ∃ a log, analyzeLogged source asked = .ok (a, log) ∧
      ∀ d ∈ a.diagnostics, ∃ line c, d.StandsIn source line c ∧
        ((∀ earlier ∈ d.passed source, Text.IsPlain earlier) →
          (d.Shows source label line c ↔ Text.IsPlain line)) := by
  obtain ⟨limit, log, analyzed⟩ := exists_analysis source positive
  refine ⟨_, log, analyzed, fun d mem => ?_⟩
  obtain ⟨before, c, after, text, place, visible⟩ := located_of_diagnostic mem
  have solid : c ≠ '\n' := by
    rintro rfl
    exact visible (by decide)
  obtain ⟨line, stands⟩ := Diagnostic.exists_standsIn text place solid
  exact ⟨line, c, stands, fun plain => stands.shows_iff visible plain⟩

/-- An error behind a tab, in a line that ends with a carriage return and a line feed, is shown
with that line. -/
theorem an_error_behind_a_tab_is_shown :
    let source := "int x;\r\n\tx @\r\n"
    let d : Diagnostic := ⟨"unrecognized symbol: '@'", ⟨2, 4⟩⟩
    (1 : Int) ≤ 150 ∧ ∃ a log, analyzeLogged source 150 = .ok (a, log) ∧ d ∈ a.diagnostics ∧
      d.Shows source "Lexical error" "\tx @\r".toList '@' := by
  intro source d
  have positive : (1 : Int) ≤ 150 := by decide
  have faulty : (tokenize source).errors ≠ [] := by decide +kernel
  have found : d ∈ (analyze source 150).diagnostics := by decide +kernel
  obtain ⟨a, log, analyzed, shown⟩ := diagnostics_shown_iff source "Lexical error" positive
  obtain ⟨log', analyzed'⟩ := analyzeLogged_of_errors faulty 150 150
  obtain ⟨rfl, rfl⟩ := Prod.mk.inj (Except.ok.inj (analyzed.symm.trans analyzed'))
  obtain ⟨line, c, stands, iff⟩ := shown d found
  have second : (source.toList.splitOn '\n')[(d.position.line - 1).toNat]?
      = some "\tx @\r".toList := by decide +kernel
  obtain rfl : line = "\tx @\r".toList := Option.some.inj (stands.inLine.2.symm.trans second)
  obtain rfl : c = '@' := Option.some.inj (stands.inColumn.2.symm.trans (by decide))
  have plain : ∀ earlier ∈ d.passed source, Text.IsPlain earlier := by decide +kernel
  have plain' : Text.IsPlain "\tx @\r".toList := by decide +kernel
  exact ⟨positive, _, _, analyzed, found, (iff plain).2 plain'⟩

/-- A comment with a form feed is two lines in print. The sign that the error is about stands in
the second line, and what is shown is the second part of the comment. -/
theorem a_form_feed_shows_another_line :
    let source := "// a\x0cb\n@"
    let d : Diagnostic := ⟨"unrecognized symbol: '@'", ⟨2, 1⟩⟩
    ∃ a log, analyzeLogged source 150 = .ok (a, log) ∧ d ∈ a.diagnostics ∧
      d.StandsIn source ['@'] '@' ∧ ¬ d.Shows source "Lexical error" ['@'] '@' ∧
      d.render source "Lexical error"
        = "\n".intercalate [d.header "Lexical error", d.excerpt ['b'], d.caret] := by
  intro source d
  have faulty : (tokenize source).errors ≠ [] := by decide +kernel
  obtain ⟨log, analyzed⟩ := analyzeLogged_of_errors faulty 150 150
  have shown : d.render source "Lexical error"
      = "\n".intercalate [d.header "Lexical error", d.excerpt ['b'], d.caret] := by decide +kernel
  refine ⟨_, log, analyzed, by decide +kernel, ⟨⟨"// a\x0cb\n".toList, [], by decide, by decide⟩,
    by decide +kernel, by decide⟩, fun shows => ?_, shown⟩
  have same := shown.symm.trans shows.text
  revert same
  decide +kernel

end MiniC
