/-
  MiniC.Text.Lines — the lines and the words of a text.

  A text is cut into lines at every character that ends a line in print, which are more
  than the line feed (`isLineBreak`); a carriage return and a line feed together end one
  line. A word is a run of characters with the blanks after it.
-/

import MiniC.Text.Blank

namespace MiniC.Text

/-- The characters that end a line: line feed, carriage return, vertical tab, form feed,
the separators U+001C to U+001E, next line, line separator and paragraph separator. -/
def isLineBreak (c : Char) : Bool :=
  c == '\n' || c == '\r' || c == '\x0b' || c == '\x0c' || c == '\x1c' || c == '\x1d' ||
    c == '\x1e' || c == '\u0085' || c == '\u2028' || c == '\u2029'

/-- The lines of a text, without their ends; a line end that closes the text opens no
further line. -/
def splitLines : List Char → List (List Char)
  | [] => []
  | '\r' :: '\n' :: r => [] :: splitLines r
  | c :: r =>
    if isLineBreak c then [] :: splitLines r
    else
      match splitLines r with
      | [] => [[c]]
      | l :: ls => (c :: l) :: ls

/-- The words of a text: it is cut where a blank stands before another character. -/
def splitWords (cs : List Char) : List (List Char) :=
  cs.splitBy fun a b => !(isBlank a && !isBlank b)

/-- `cs` without the blanks at its end. -/
def trimEnd (cs : List Char) : List Char := (cs.reverse.dropWhile isBlank).reverse

/-- `cs` without the blanks at its end by which it is longer than `n`. -/
def cropEnd (n : Nat) (cs : List Char) : List Char :=
  let blanks := cs.length - (trimEnd cs).length
  cs.take (cs.length - min blanks (cs.length - n))

end MiniC.Text
