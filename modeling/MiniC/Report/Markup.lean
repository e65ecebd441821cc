/-
  MiniC.Report.Markup — texts that are marked up for print.

  A tag stands in square brackets. It starts with a small letter, a number sign, a slash or
  an at sign, and goes on to the first closing bracket; an opening bracket may not stand in
  it. A tag is not shown. Of the backslashes before a tag each pair shows one, and one that
  is left over makes the tag a text. A backslash before any other opening bracket is not
  shown.

  A tag sets the style of what follows, up to the tag that closes it. That one starts with a
  slash and names the style again, or names none and closes the innermost. A text that
  closes what is not open is refused (`fault?`).
-/

import MiniC.Text.Blank
import MiniC.Text.Lines

namespace MiniC.Report.Markup

/-! ## Tags -/

def startsTag (c : Char) : Bool := c.isLower || c == '#' || c == '/' || c == '@'

/-- The inside of the tag that an opening bracket has opened, and what follows the tag. -/
def tag? (cs : List Char) : Option (List Char × List Char) :=
  match cs.dropWhile fun c => c != ']' && c != '[' with
  | ']' :: rest =>
    if cs.head?.any startsTag then some (cs.takeWhile fun c => c != ']' && c != '[', rest)
    else none
  | _ => none

theorem length_lt_of_tag? {cs inside rest : List Char} (h : tag? cs = some (inside, rest)) :
    rest.length < cs.length := by
  unfold tag? at h
  split at h
  · next after found =>
    have shorter := (List.dropWhile_sublist (fun c => c != ']' && c != '[') (l := cs)).length_le
    rw [found] at shorter
    split at h
    · cases h; simp only [List.length_cons] at shorter; omega
    · cases h
  · cases h

/-- A part of a text that is marked up. -/
inductive Piece where
  /-- Characters that are shown. -/
  | text (cs : List Char)
  /-- A tag, and how many characters stand before it. -/
  | tag (position : Nat) (inside : List Char)
  deriving DecidableEq, Repr

/-- The pieces of `cs`, which stand at `position`, after `slashes` backslashes. -/
def pieces (position slashes : Nat) (cs : List Char) : List Piece :=
  match cs with
  | [] => [.text (List.replicate slashes '\\')]
  | '\\' :: r => pieces (position + 1) (slashes + 1) r
  | '[' :: r =>
    match _ : tag? r with
    | some (inside, rest) =>
      let tag : Piece :=
        if slashes % 2 = 1 then .text ('[' :: inside ++ [']']) else .tag position inside
      .text (List.replicate (slashes / 2) '\\') :: tag
        :: pieces (position + inside.length + 2) 0 rest
    | none => .text (List.replicate (slashes - 1) '\\' ++ ['[']) :: pieces (position + 1) 0 r
  | c :: r => .text (List.replicate slashes '\\' ++ [c]) :: pieces (position + 1) 0 r
termination_by cs.length
decreasing_by
  · simp
  · have := length_lt_of_tag? ‹_›
    simp only [List.length_cons]
    omega
  · simp
  · simp

def Piece.shown : Piece → List Char
  | .text cs => cs
  | .tag _ _ => []

/-- What is shown of a text that is marked up. -/
def shown (text : String) : String := String.ofList ((pieces 0 0 text.toList).flatMap Piece.shown)

/-! ## Tags that close nothing -/

/-- The letters that stand for a style. -/
def abbreviations : List (String × String) :=
  [("b", "bold"), ("d", "dim"), ("i", "italic"), ("u", "underline"), ("uu", "underline2"),
   ("r", "reverse"), ("c", "conceal"), ("s", "strike"), ("o", "overline")]

/-- What a tag names, word by word: capitals count as small letters, and a letter as the
style that it stands for. -/
def styleOf (cs : List Char) : List String :=
  (Text.splitWords cs).filterMap fun word =>
    let word := String.ofList ((Text.trim Text.isBlank word).map Char.toLower)
    if word = "" then none else some ((abbreviations.lookup word).getD word)

/-- Why a text is refused. -/
inductive Fault where
  /-- A tag names a style that is not open. -/
  | unmatched (inside : String) (position : Nat)
  /-- A tag that names no style stands where none is open. -/
  | nothingOpen (position : Nat)
  deriving DecidableEq, Repr

def Fault.message : Fault → String
  | .unmatched inside position =>
    s!"closing tag '[{inside}]' at position {position} doesn't match any open tag"
  | .nothingOpen position => s!"closing tag '[/]' at position {position} has nothing to close"

/-- The first tag among the pieces that closes nothing, when `styles` are open, the innermost
first. What follows an equals sign in a tag is none of its name. -/
def faultIn (styles : List (List String)) : List Piece → Option Fault
  | [] => none
  | .text _ :: ps => faultIn styles ps
  | .tag position inside :: ps =>
    match inside.takeWhile (· != '=') with
    | '/' :: name =>
      match styleOf name, styles with
      | [], [] => some (.nothingOpen position)
      | [], _ :: outer => faultIn outer ps
      | style, styles =>
        if styles.contains style then faultIn (styles.erase style) ps
        else some (.unmatched (String.ofList inside) position)
    | name => faultIn (styleOf name :: styles) ps

/-- Why the text is refused, if it is. -/
def fault? (text : String) : Option Fault := faultIn [] (pieces 0 0 text.toList)

end MiniC.Report.Markup
