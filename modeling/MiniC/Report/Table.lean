/-
  MiniC.Report.Table — tables and panels drawn with box characters.

  A column is as wide as the widest line in its heading and its cells, with one space on
  each side. A cell that takes up more columns than that, as it does when it holds a line
  end, is filled into several lines, word by word; its row is as high as its highest cell.
  The title stands centred above the table, with the smaller half of the free space to its
  left. A panel is a single line of text in a frame whose upper edge holds a title.
-/

import MiniC.Text.Lines
import MiniC.Text.Width

namespace MiniC.Report

inductive Align where
  | left
  | right
  deriving DecidableEq, Repr

structure Column where
  heading : String
  align : Align
  deriving DecidableEq, Repr

structure Table where
  title : String
  columns : List Column
  rows : List (List String)
  deriving Repr

/-- The columns that a text takes up. -/
def width (t : String) : Nat := Text.width t.toList

/-- `n` times the character `c`. -/
def run (n : Nat) (c : Char) : String := String.ofList (List.replicate n c)

/-- `t` in the middle of `room` columns, the others filled with `c`, the smaller half of
them to its left. -/
def centre (room : Nat) (c : Char) (t : String) : String :=
  let free := room - width t
  run (free / 2) c ++ t ++ run (free - free / 2) c

/-- `t` at one end of `room` columns. -/
def pad (align : Align) (room : Nat) (t : String) : String :=
  match align with
  | .left => t ++ run (room - width t) ' '
  | .right => run (room - width t) ' ' ++ t

/-! ## Cells -/

/-- The width that a cell asks for: that of its widest line. -/
def cellWidth (t : String) : Nat := ((Text.splitLines t.toList).map Text.width).foldl max 0

/-- Lines that start with `line`, which takes up `used` columns, and go on with words. A
word that does not fit in `room` columns starts a new line; the blanks after it need not. -/
def fillAfter (room used : Nat) (line : List Char) : List (List Char) → List (List Char)
  | [] => [line]
  | w :: ws =>
    if line.isEmpty ∨ used + Text.width (Text.trimEnd w) ≤ room then
      fillAfter room (used + Text.width w) (line ++ w) ws
    else line :: fillAfter room (Text.width w) w ws

/-- A cell in lines of `room` columns. -/
def fill (room : Nat) (t : String) : List String :=
  (fillAfter room 0 [] (Text.splitWords t.toList)).map fun line =>
    String.ofList (Text.cropEnd room line)

/-! ## Tables -/

/-- A line of cells in their columns, between bars. -/
def drawLine (widths : List (Column × Nat)) (bar : String) (cells : List String) : String :=
  let drawn := widths.zipWith (fun (c, w) cell => " " ++ pad c.align w cell ++ " ") cells
  bar ++ bar.intercalate drawn ++ bar

/-- The lines of a row. -/
def drawRow (widths : List (Column × Nat)) (bar : String) (cells : List String) : List String :=
  let filled := widths.zipWith (fun (_, w) cell => fill w cell) cells
  let height := (filled.map List.length).foldl max 1
  (List.range height).map fun i => drawLine widths bar (filled.map fun lines => lines[i]?.getD "")

/-- A line of the frame: the ends, what divides two columns, and what fills them. -/
def rule (widths : List (Column × Nat)) (left divide right : String) (c : Char) : String :=
  left ++ divide.intercalate (widths.map fun (_, w) => run (w + 2) c) ++ right

namespace Table

/-- The cells, column by column. -/
def cells (t : Table) : List String :=
  t.columns.zipIdx.flatMap fun (_, i) => t.rows.map fun row => row[i]?.getD ""

/-- The table with other texts in its cells. -/
def map (f : String → String) (t : Table) : Table := { t with rows := t.rows.map (·.map f) }

/-- The width of the column at index `i`, its two outer spaces left out. -/
def columnWidth (t : Table) (i : Nat) (c : Column) : Nat :=
  (t.rows.map fun row => cellWidth (row[i]?.getD "")).foldl max (cellWidth c.heading)

/-- The columns with their widths. -/
def widths (t : Table) : List (Column × Nat) :=
  t.columns.zipIdx.map fun (c, i) => (c, t.columnWidth i c)

def lines (t : Table) : List String :=
  let widths := t.widths
  let top := rule widths "┏" "┳" "┓" '━'
  [centre top.length ' ' t.title, top] ++ drawRow widths "┃" (t.columns.map (·.heading))
    ++ [rule widths "┡" "╇" "┩" '━'] ++ t.rows.flatMap (drawRow widths "│")
    ++ [rule widths "└" "┴" "┘" '─']

end Table

/-! ## Panels -/

/-- A line of text in a frame with a title. The spaces at the end of the upper edge are
dropped as far as it has more characters than columns. -/
def panel (title body : String) : List String :=
  let title := " " ++ title ++ " "
  let room := max (width body) (width title)
  let edge := (centre room '─' title).toList
  ["╭─" ++ String.ofList (Text.cropEnd room edge) ++ "─╮",
    "│ " ++ pad .left room body ++ " │",
    "╰" ++ run (room + 2) '─' ++ "╯"]

end MiniC.Report
