/-
  MiniC.Cursor — a cursor over a source text, kept as the characters it has passed and
  those that are left, with the position of the next one.

  A cursor only moves forward and stops at the end (`skip_rest`, `skip_passed`). What it
  may look at reaches both ways: an index below zero counts back from the end of the whole
  text, and one further back than that has no character.
-/

import MiniC.Position

namespace MiniC

structure Cursor where
  /-- The characters passed, the nearest first. -/
  passed : List Char
  /-- The characters left; the first is the current one. -/
  rest : List Char
  /-- Where the current character stands. -/
  position : Position
  deriving DecidableEq, Repr

namespace Cursor

/-- A look at a character that the text cannot have. -/
inductive Fault where
  | outOfRange
  deriving DecidableEq, Repr

def Fault.message : Fault → String
  | .outOfRange => "string index out of range"

def ofChars (cs : List Char) : Cursor := ⟨[], cs, .start⟩

def ofText (text : String) : Cursor := ofChars text.toList

/-- The whole text. -/
def text (c : Cursor) : List Char := c.passed.reverse ++ c.rest

/-- How many characters have been passed. -/
def offset (c : Cursor) : Nat := c.passed.length

def atEnd (c : Cursor) : Bool := c.rest.isEmpty

def current (c : Cursor) : Option Char := c.rest.head?

/-- Pass `n` characters, or all that are left. -/
def skip : Nat → Cursor → Cursor
  | 0, c => c
  | n + 1, c =>
    match c.rest with
    | [] => c
    | ch :: r => skip n ⟨ch :: c.passed, r, c.position.after ch⟩

/-- Pass `steps` characters; a count below one passes none. -/
def advance (c : Cursor) (steps : Int) : Cursor := c.skip steps.toNat

/-- The character `distance` away from the current one: none at or past the end. An index
below zero counts back from the end of the text. -/
def peek (c : Cursor) (distance : Int) : Except Fault (Option Char) :=
  let i := c.offset + distance
  if 0 ≤ i then .ok c.text[i.toNat]?
  else if 0 ≤ i + c.text.length then .ok c.text[(i + c.text.length).toNat]?
  else .error .outOfRange

/-- The characters passed since index `start`; a start below zero counts back from the end
of the text, and stops at its beginning. -/
def slice (c : Cursor) (start : Int) : List Char :=
  let i := if start < 0 then start + c.text.length else start
  c.passed.reverse.drop i.toNat

theorem skip_rest (n : Nat) (c : Cursor) : (c.skip n).rest = c.rest.drop n := by
  induction n generalizing c with
  | zero => rfl
  | succ n ih =>
    cases h : c.rest with
    | nil => simp [skip, h]
    | cons ch r => simp [skip, h, ih]

theorem skip_passed (n : Nat) (c : Cursor) :
    (c.skip n).passed = (c.rest.take n).reverse ++ c.passed := by
  induction n generalizing c with
  | zero => rfl
  | succ n ih =>
    cases h : c.rest with
    | nil => simp [skip, h]
    | cons ch r => simp [skip, h, ih]

theorem skip_position (n : Nat) (c : Cursor) :
    (c.skip n).position = c.position.past (c.rest.take n) := by
  induction n generalizing c with
  | zero => rfl
  | succ n ih =>
    cases h : c.rest with
    | nil => simp [skip, h]
    | cons ch r => simp [skip, h, ih]

end Cursor

end MiniC
