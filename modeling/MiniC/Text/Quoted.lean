/-
  MiniC.Text.Quoted — a text between quotes, on one line of printable characters.

  Single quotes are taken unless the text holds one and no double quote. The backslash and
  the quote taken are escaped by a backslash; line feed, carriage return and tab have
  letters of their own; any other unprintable character is written by its number, in the
  shortest of the forms with two, four and eight hexadecimal digits.
-/

import MiniC.Text.Unassigned

namespace MiniC.Text

/-- Runs of characters that are not printable: controls, spaces other than U+0020, format
characters and private use. They may span code points that are not assigned. -/
def unprintableRuns : Runs where
  list := [
    (0x0, 0x1F), (0x7F, 0xA0), (0xAD, 0xAD), (0x600, 0x605), (0x61C, 0x61C), (0x6DD, 0x6DD),
    (0x70F, 0x70F), (0x890, 0x891), (0x8E2, 0x8E2), (0x1680, 0x1680), (0x180E, 0x180E),
    (0x2000, 0x200F), (0x2028, 0x202F), (0x205F, 0x2064), (0x2066, 0x206F), (0x3000, 0x3000),
    (0xE000, 0xF8FF), (0xFEFF, 0xFEFF), (0xFFF9, 0xFFFB), (0x110BD, 0x110BD), (0x110CD, 0x110CD),
    (0x13430, 0x1343F), (0x1BCA0, 0x1BCA3), (0x1D173, 0x1D17A), (0xE0001, 0xE0001),
    (0xE0020, 0xE007F), (0xF0000, 0x10FFFF)]

/-- An unassigned code point is not printable either. -/
def isPrintable (c : Char) : Bool := !unprintableRuns.holds c.toNat && !isUnassigned c

/-- The hexadecimal digits of `n`, in lower case and at least `width` of them. -/
def hex (width n : Nat) : List Char :=
  let digits := Nat.toDigits 16 n
  List.replicate (width - digits.length) '0' ++ digits

/-- The quote that a text is set in. -/
def quoteFor (cs : List Char) : Char := if '\'' ∈ cs ∧ '"' ∉ cs then '"' else '\''

/-- A character as it stands inside the quotes `q`. -/
def escape (q c : Char) : List Char :=
  if c = q ∨ c = '\\' then ['\\', c]
  else if c = '\n' then ['\\', 'n']
  else if c = '\r' then ['\\', 'r']
  else if c = '\t' then ['\\', 't']
  else if isPrintable c then [c]
  else if c.toNat < 0x100 then '\\' :: 'x' :: hex 2 c.toNat
  else if c.toNat < 0x10000 then '\\' :: 'u' :: hex 4 c.toNat
  else '\\' :: 'U' :: hex 8 c.toNat

def quoteChars (cs : List Char) : List Char :=
  let q := quoteFor cs
  q :: cs.flatMap (escape q) ++ [q]

def quote (text : String) : String := String.ofList (quoteChars text.toList)

end MiniC.Text
