/-
  MiniC.Text.Integer — reading an integer from a text.

  An integer is written with blanks around it, at most one sign, and decimal digits of any
  script, a single underscore allowed between two of them. Of the characters below U+007F
  six are blanks here; from there on, all that `isBlank` knows. More than 4300 digits are
  no integer.
-/

import MiniC.Text.Blank

namespace MiniC.Text

/-- The digits zero of the scripts; the digits one to nine follow each. -/
def zeros : List Nat :=
  [0x30, 0x660, 0x6F0, 0x7C0, 0x966, 0x9E6, 0xA66, 0xAE6, 0xB66, 0xBE6, 0xC66, 0xCE6, 0xD66,
   0xDE6, 0xE50, 0xED0, 0xF20, 0x1040, 0x1090, 0x17E0, 0x1810, 0x1946, 0x19D0, 0x1A80, 0x1A90,
   0x1B50, 0x1BB0, 0x1C40, 0x1C50, 0xA620, 0xA8D0, 0xA900, 0xA9D0, 0xA9F0, 0xAA50, 0xABF0,
   0xFF10, 0x104A0, 0x10D30, 0x11066, 0x110F0, 0x11136, 0x111D0, 0x112F0, 0x11450, 0x114D0,
   0x11650, 0x116C0, 0x11730, 0x118E0, 0x11950, 0x11C50, 0x11D50, 0x11DA0, 0x16A60, 0x16AC0,
   0x16B50, 0x1D7CE, 0x1D7D8, 0x1D7E2, 0x1D7EC, 0x1D7F6, 0x1E140, 0x1E2F0, 0x1E950, 0x1FBF0]

/-- The value of a decimal digit. -/
def digit? (c : Char) : Option Nat :=
  (zeros.find? fun z => z ≤ c.toNat && c.toNat < z + 10).map (c.toNat - ·)

/-- The blanks that may stand around an integer. -/
def isIntegerBlank (c : Char) : Bool :=
  if c.toNat < 0x7F then c == ' ' || (0x9 ≤ c.toNat && c.toNat ≤ 0xD) else isBlank c

/-- The digits that a text is written with, when it is written with digits and single
underscores between them. -/
def digits? : List Char → Option (List Nat)
  | [] => none
  | [c] => (digit? c).map ([·])
  | c :: '_' :: r => do
    let d ← digit? c
    let ds ← digits? r
    pure (d :: ds)
  | c :: r => do
    let d ← digit? c
    let ds ← digits? r
    pure (d :: ds)

/-- The number that decimal digits stand for. -/
def ofDigits (ds : List Nat) : Nat := ds.foldl (fun n d => 10 * n + d) 0

/-- The most digits that an integer may have. -/
def mostDigits : Nat := 4300

def natural? (cs : List Char) : Option Nat :=
  match digits? cs with
  | some ds => if ds.length ≤ mostDigits then some (ofDigits ds) else none
  | none => none

def signed? : List Char → Option Int
  | '+' :: r => (natural? r).map Int.ofNat
  | '-' :: r => (natural? r).map fun n => -(n : Int)
  | cs => (natural? cs).map Int.ofNat

/-- The integer that a text writes. -/
def integer? (text : String) : Option Int := signed? (trim isIntegerBlank text.toList)

end MiniC.Text
