/-
  MiniC.Tally — how often each identifier occurs in a text, and where it first does.

  A tally knows no scopes. Its entries stand in the order in which their names first
  occurred (`record`); `sorted` gives them by name, letters compared without case first.
-/

import MiniC.Position

namespace MiniC

/-- An identifier of a text: how often it occurs and where it first does. -/
structure RawSymbol where
  name : String
  count : Int
  first : Position
  deriving DecidableEq, Repr

/-- The identifiers of a text, one entry per name, in the order of their first occurrence. -/
abbrev Tally := List RawSymbol

namespace Tally

/-- Count one more occurrence of `name`, at `position`. -/
def record : Tally → String → Position → Tally
  | [], name, position => [⟨name, 1, position⟩]
  | s :: rest, name, position =>
    if s.name = name then { s with count := s.count + 1 } :: rest
    else s :: record rest name position

/-- Count the occurrences of names, each with its position. -/
def recordAll (t : Tally) (entries : List (String × Position)) : Tally :=
  entries.foldl (fun t (name, position) => t.record name position) t

/-- The name by which entries are ordered first. -/
def caseless (name : String) : String := String.ofList (name.toList.map Char.toLower)

/-- Does `s` stand before `t` in a sorted tally, or at the same place? -/
def before (s t : RawSymbol) : Bool :=
  if caseless s.name = caseless t.name then decide (s.name ≤ t.name)
  else decide (caseless s.name ≤ caseless t.name)

def sorted (t : Tally) : Tally := t.mergeSort before

end Tally

end MiniC
