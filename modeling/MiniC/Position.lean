/-
  MiniC.Position — places in a source text.

  A position is a line and a column. The first character of a text stands at line 1,
  column 1 (`Position.start`). Only a line feed opens a new line; every other character,
  a carriage return or a tab included, takes one column (`Position.after`).
-/

namespace MiniC

/-- A line and a column. Those that reading a text gives are counted from one; a token
handed in from outside may carry any pair. -/
structure Position where
  line : Int
  column : Int
  deriving DecidableEq, Repr

namespace Position

/-- Where the first character of a text stands. -/
def start : Position := ⟨1, 1⟩

/-- Where the character after `c` stands, when `c` stands at `p`. -/
def after (p : Position) (c : Char) : Position :=
  if c = '\n' then ⟨p.line + 1, 1⟩ else ⟨p.line, p.column + 1⟩

/-- Where the character after all of `cs` stands, when `cs` starts at `p`. -/
def past (p : Position) (cs : List Char) : Position := cs.foldl after p

@[simp] theorem past_nil (p : Position) : p.past [] = p := rfl

@[simp] theorem past_cons (p : Position) (c : Char) (cs : List Char) :
    p.past (c :: cs) = (p.after c).past cs := rfl

theorem past_append (p : Position) (cs ds : List Char) :
    p.past (cs ++ ds) = (p.past cs).past ds := by
  simp [past, List.foldl_append]

/-- The text `line:column`. -/
def colon (p : Position) : String := s!"{p.line}:{p.column}"

/-- The text `line L, column C`. -/
def words (p : Position) : String := s!"line {p.line}, column {p.column}"

/-- The position as it stands in a table: `L` with the line, `C` with the column. -/
def cell (p : Position) : String := s!"L{p.line}, C{p.column}"

end Position

end MiniC
