/-
  MiniC.Lexer.Segment — a text cut into segments.

  A segment is a stretch of text and what it is read as: nothing (blanks, comments), a
  token, a fault, or both a fault and a token (a numeral that runs into letters). A word
  that is not reserved is entered into the tally, too. How far a segment reaches is a
  function of the text from its first character on, and the readers here do not check that
  character; `next` chooses the reader by it.

  Main result: a segment of a text that is not empty is not empty (`next_size_pos`), so
  `segments` cuts any text to its end.
-/

import MiniC.Token
import MiniC.Diagnostic

namespace MiniC

open Vocabulary

structure Segment where
  /-- How many characters it covers. -/
  size : Nat
  fault : Option LexFault
  token : Option (TokenKind × String)
  /-- The name that is entered into the tally. -/
  entry : Option String
  deriving DecidableEq, Repr

namespace Segment

/-- How far a comment or a string reaches, and whether its end was found. -/
structure Extent where
  size : Nat
  closed : Bool
  deriving DecidableEq, Repr

def Extent.longer (n : Nat) (e : Extent) : Extent := ⟨n + e.size, e.closed⟩

/-! ## Blanks and comments -/

def blank : Segment := ⟨1, none, none, none⟩

/-- A comment up to the end of its line, the line feed left out. -/
def lineComment (cs : List Char) : Segment :=
  ⟨(cs.takeWhile (· != '\n')).length, none, none, none⟩

/-- How many characters there are through the first `*/`. -/
def throughClose : List Char → Option Nat
  | [] => none
  | [_] => none
  | '*' :: '/' :: _ => some 2
  | _ :: c :: r => (throughClose (c :: r)).map (· + 1)

/-- A comment that ends at the first `*/` after its two opening characters. -/
def blockComment (cs : List Char) : Segment :=
  match throughClose (cs.drop 2) with
  | some n => ⟨2 + n, none, none, none⟩
  | none => ⟨cs.length, some .unterminatedComment, none, none⟩

/-! ## Literals -/

/-- How far a string reaches after its opening quote: through the closing quote, or, when
there is none on its line, through the line feed or to the end of the text. A backslash
takes the next character with it, but hides no line feed. -/
def stringBody : List Char → Extent
  | [] => ⟨0, false⟩
  | '"' :: _ => ⟨1, true⟩
  | '\n' :: _ => ⟨1, false⟩
  | ['\\'] => ⟨1, false⟩
  | '\\' :: '\n' :: _ => ⟨2, false⟩
  | '\\' :: _ :: r => (stringBody r).longer 2
  | _ :: r => (stringBody r).longer 1

def stringExtent : List Char → Extent
  | [] => ⟨0, false⟩
  | _ :: r => (stringBody r).longer 1

def string (cs : List Char) : Segment :=
  let e := stringExtent cs
  if e.closed then ⟨e.size, none, some (.string, String.ofList (cs.take e.size)), none⟩
  else ⟨e.size, some .unterminatedString, none, none⟩

def digits (cs : List Char) : Nat := (cs.takeWhile isDigit).length

/-- How far a numeral reaches: digits, and a fraction when a digit follows the point. -/
def numeral (cs : List Char) : Nat :=
  let whole := digits cs
  match cs.drop whole with
  | '.' :: d :: r => if isDigit d then whole + 1 + digits (d :: r) else whole
  | _ => whole

/-- A numeral. Letters and digits that it runs into are passed over with a fault, and the
numeral before them still is a token. -/
def number (cs : List Char) : Segment :=
  let n := numeral cs
  let token := some (TokenKind.number, String.ofList (cs.take n))
  if (cs.drop n).head?.any isLetter then
    let size := n + ((cs.drop n).takeWhile isWordChar).length
    ⟨size, some (.invalidNumber (String.ofList (cs.take size))), token, none⟩
  else ⟨n, none, token, none⟩

/-- A word, which is a keyword if it is reserved. Any other is entered into the tally. -/
def word (cs : List Char) : Segment :=
  let lexeme := String.ofList (cs.takeWhile isWordChar)
  let size := (cs.takeWhile isWordChar).length
  if keywords.contains lexeme then ⟨size, none, some (.keyword, lexeme), none⟩
  else ⟨size, none, some (.identifier, lexeme), some lexeme⟩

/-! ## Operators and delimiters -/

/-- The sign `sign` with the character that follows the first of `cs`: the pair if it is an
operator, or else the sign alone. -/
def symbol (sign : String) (cs : List Char) : Segment :=
  let pair := sign ++ String.ofList (cs.drop 1 |>.take 1)
  if pairOperators.contains pair then ⟨2, none, some (.operator, pair), none⟩
  else if singleOperators.contains sign then ⟨1, none, some (.operator, sign), none⟩
  else if delimiters.contains sign then ⟨1, none, some (.delimiter, sign), none⟩
  else ⟨1, some (.unrecognizedSymbol sign), none, none⟩

/-! ## Cutting a text -/

/-- The segment that a text starts with. -/
def next : List Char → Segment
  | [] => ⟨0, none, none, none⟩
  | c :: r =>
    if isWhitespace c then blank
    else if c = '/' ∧ r.head? = some '/' then lineComment (c :: r)
    else if c = '/' ∧ r.head? = some '*' then blockComment (c :: r)
    else if c = '"' then string (c :: r)
    else if isDigit c then number (c :: r)
    else if isLetter c then word (c :: r)
    else symbol (String.ofList [c]) (c :: r)

/-! ## How far segments reach -/

theorem string_size (cs : List Char) : (string cs).size = (stringExtent cs).size := by
  simp only [string]; split <;> rfl

theorem digits_le_numeral (cs : List Char) : digits cs ≤ numeral cs := by
  simp only [numeral]
  split
  · split <;> omega
  · omega

theorem numeral_le_number_size (cs : List Char) : numeral cs ≤ (number cs).size := by
  simp only [number]; split <;> simp

theorem word_size (cs : List Char) : (word cs).size = (cs.takeWhile isWordChar).length := by
  simp only [word]; split <;> rfl

theorem symbol_size_pos (sign : String) (cs : List Char) : 0 < (symbol sign cs).size := by
  simp only [symbol]
  repeat' split
  all_goals exact Nat.succ_pos _

/-- A segment of a text that is not empty covers at least one character. -/
theorem next_size_pos (c : Char) (r : List Char) : 0 < (next (c :: r)).size := by
  simp only [next]
  split
  · exact Nat.succ_pos _
  split
  · next h => simp [lineComment, h.1]
  split
  · unfold blockComment
    split
    · exact Nat.lt_of_lt_of_le (by decide) (Nat.le_add_right 2 _)
    · exact Nat.succ_pos _
  split
  · rw [string_size]
    exact Nat.lt_of_lt_of_le Nat.one_pos (Nat.le_add_right 1 _)
  split
  · next h =>
    have hd : 0 < digits (c :: r) := by simp [digits, h]
    have := digits_le_numeral (c :: r)
    have := numeral_le_number_size (c :: r)
    omega
  split
  · next h => rw [word_size]; simp [isWordChar, h]
  · exact symbol_size_pos ..

end Segment

/-- A segment with the position that it is read under. -/
structure Placed where
  segment : Segment
  position : Position
  deriving DecidableEq, Repr

namespace Placed

def error? (p : Placed) : Option LexError := p.segment.fault.map (⟨·, p.position⟩)

def token? (p : Placed) : Option Token :=
  p.segment.token.map fun (kind, lexeme) => ⟨kind, lexeme, p.position⟩

def occurrence? (p : Placed) : Option (String × Position) := p.segment.entry.map (·, p.position)

end Placed

/-- A text cut into segments, each under its own position; the text starts at `p`. -/
def segments (p : Position) : List Char → List Placed
  | [] => []
  | c :: r =>
    let s := Segment.next (c :: r)
    ⟨s, p⟩ :: segments (p.past ((c :: r).take s.size)) ((c :: r).drop s.size)
termination_by cs => cs.length
decreasing_by
  have := Segment.next_size_pos c r
  simp only [List.length_drop, List.length_cons]
  omega

/-- Each segment of a text is the one that some end of it starts with. -/
theorem exists_next_of_mem {p : Position} {cs : List Char} {s : Placed} (mem : s ∈ segments p cs) :
    ∃ c r, s.segment = Segment.next (c :: r) := by
  fun_induction segments p cs with
  | case1 => exact absurd mem List.not_mem_nil
  | case2 p c r first ih =>
    rcases List.mem_cons.1 mem with rfl | mem
    · exact ⟨c, r, rfl⟩
    · exact ih mem

end MiniC
