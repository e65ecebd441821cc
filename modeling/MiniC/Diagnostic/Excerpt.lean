/-
  MiniC.Diagnostic.Excerpt — a diagnostic shown with the line it is about.

  The text is cut into lines as it is in print (`Text.splitLines`). The line that the
  diagnostic names is shown behind a gutter with its number, tabs as single spaces, and a
  caret stands below the column. A diagnostic that names no line of the text is shown by
  its header alone.
-/

import MiniC.Diagnostic
import MiniC.Text.Lines

namespace MiniC

namespace Text

/-- The text `t`, with spaces before it up to a width. -/
def padLeft (width : Nat) (t : String) : String :=
  String.ofList (List.replicate (width - t.length) ' ') ++ t

end Text

namespace Diagnostic

def header (d : Diagnostic) (label : String) : String :=
  s!"{label} at {d.position.words}: {d.message}"

/-- What stands before an excerpt: the line number, four wide, and a bar. -/
def gutter (line : Int) : String := Text.padLeft 4 (toString line) ++ " | "

/-- The line that a diagnostic names, if the text has it. -/
def lineOf? (d : Diagnostic) (source : String) : Option (List Char) :=
  if 1 ≤ d.position.line then (Text.splitLines source.toList)[(d.position.line - 1).toNat]?
  else none

/-- Where the caret stands below a gutter. -/
def caret (d : Diagnostic) : String :=
  String.ofList
    (List.replicate ((gutter d.position.line).length + (d.position.column - 1).toNat) ' ') ++ "^"

def render (d : Diagnostic) (source label : String) : String :=
  match d.lineOf? source with
  | none => d.header label
  | some line =>
    let shown := String.ofList (line.map fun c => if c = '\t' then ' ' else c)
    "\n".intercalate [d.header label, gutter d.position.line ++ shown, d.caret]

end Diagnostic

end MiniC
