/-
  MiniC.Text.Utf8 — reading a text from its UTF-8 form.

  Only well-formed UTF-8 is read: no overlong form, no surrogate, nothing above U+10FFFF.
  The reader stands between two characters or owes continuation bytes; what the next byte
  may be is part of where it stands, because after some first bytes the second one is
  restricted. The first byte that no text has in its place is the fault, and so is an end
  inside a character.
-/

namespace MiniC.Text.Utf8

inductive Fault where
  /-- A byte that starts no character. -/
  | start
  /-- A byte that does not continue the character begun. -/
  | continuation
  /-- The bytes end inside a character. -/
  | ending
  deriving DecidableEq, Repr

def Fault.message : Fault → String
  | .start => "invalid start byte"
  | .continuation => "invalid continuation byte"
  | .ending => "unexpected end of data"

/-- A character begun: what its bytes so far amount to, how many are owed after the next
one, and between which bounds the next one lies. -/
structure Begun where
  value : Nat
  owed : Nat
  low : Nat
  high : Nat
  deriving DecidableEq, Repr

/-- What a first byte begins: a whole character, or one that goes on. -/
def begin? (b : Nat) : Option (Char ⊕ Begun) :=
  if b < 0x80 then some (.inl (Char.ofNat b))
  else if b < 0xC2 then none
  else if b < 0xE0 then some (.inr ⟨b - 0xC0, 0, 0x80, 0xBF⟩)
  else if b = 0xE0 then some (.inr ⟨0, 1, 0xA0, 0xBF⟩)
  else if b = 0xED then some (.inr ⟨0xD, 1, 0x80, 0x9F⟩)
  else if b < 0xF0 then some (.inr ⟨b - 0xE0, 1, 0x80, 0xBF⟩)
  else if b = 0xF0 then some (.inr ⟨0, 2, 0x90, 0xBF⟩)
  else if b < 0xF4 then some (.inr ⟨b - 0xF0, 2, 0x80, 0xBF⟩)
  else if b = 0xF4 then some (.inr ⟨4, 2, 0x80, 0x8F⟩)
  else none

/-- What the next byte makes of a character begun, if it can continue it. -/
def Begun.continue? (g : Begun) (b : Nat) : Option (Char ⊕ Begun) :=
  if g.low ≤ b ∧ b ≤ g.high then
    let value := g.value * 64 + (b - 0x80)
    match g.owed with
    | 0 => some (.inl (Char.ofNat value))
    | n + 1 => some (.inr ⟨value, n, 0x80, 0xBF⟩)
  else none

/-- Read on, from between two characters or inside one. -/
def readFrom : Option Begun → List UInt8 → Except Fault (List Char)
  | none, [] => .ok []
  | some _, [] => .error .ending
  | none, b :: r =>
    match begin? b.toNat with
    | none => .error .start
    | some (.inl c) => (readFrom none r).map (c :: ·)
    | some (.inr g) => readFrom (some g) r
  | some g, b :: r =>
    match g.continue? b.toNat with
    | none => .error .continuation
    | some (.inl c) => (readFrom none r).map (c :: ·)
    | some (.inr h) => readFrom (some h) r

/-- The text that a list of bytes is the UTF-8 form of. -/
def decode (bytes : List UInt8) : Except Fault (List Char) := readFrom none bytes

end MiniC.Text.Utf8
