/-
  MiniC.Text.Blank — the characters that print as nothing but space, and trimming them.

  The set is that of Unicode's white space together with the four separators U+001C to
  U+001F: 29 characters.
-/

import MiniC.Text.Runs

namespace MiniC.Text

def blankRuns : Runs where
  list := [
    (0x9, 0xD), (0x1C, 0x20), (0x85, 0x85), (0xA0, 0xA0), (0x1680, 0x1680), (0x2000, 0x200A),
    (0x2028, 0x2029), (0x202F, 0x202F), (0x205F, 0x205F), (0x3000, 0x3000)]

def isBlank (c : Char) : Bool := blankRuns.holds c.toNat

/-- `cs` without the characters of the class `p` at its two ends. -/
def trim (p : Char → Bool) (cs : List Char) : List Char :=
  ((cs.dropWhile p).reverse.dropWhile p).reverse

end MiniC.Text
