/-
  MiniC.Text.ControlSequence — the sequences by which a text steers a terminal.

  A sequence is an escape character and an opening bracket, then any number of digits,
  semicolons and question marks, then a letter.
-/

namespace MiniC.Text

def isParameter (c : Char) : Bool := c.isDigit || c == ';' || c == '?'

/-- What follows the control sequence at the start of a text, if there is one. -/
def afterSequence? : List Char → Option (List Char)
  | '\x1b' :: '[' :: r =>
    match r.dropWhile isParameter with
    | c :: rest => if c.isAlpha then some rest else none
    | [] => none
  | _ => none

theorem length_lt_of_afterSequence? {cs rest : List Char} (h : afterSequence? cs = some rest) :
    rest.length < cs.length := by
  unfold afterSequence? at h
  split at h
  · next r =>
    have shorter := (List.dropWhile_sublist isParameter (l := r)).length_le
    split at h
    · next c after found =>
      rw [found] at shorter
      split at h
      · cases h; simp only [List.length_cons] at shorter ⊢; omega
      · cases h
    · cases h
  · cases h

/-- A text without its control sequences. -/
def dropSequences (cs : List Char) : List Char :=
  match _ : afterSequence? cs with
  | some rest => dropSequences rest
  | none =>
    match cs with
    | [] => []
    | c :: r => c :: dropSequences r
termination_by cs.length
decreasing_by
  · exact length_lt_of_afterSequence? ‹_›
  · simp

end MiniC.Text
