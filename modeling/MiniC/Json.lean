/-
  MiniC.Json — JSON values with their fields in order, and their indented text.

  `pretty` writes every item and every field on a line of its own, two spaces deeper than
  what holds it; an empty list or object stays on one line. A text is written in double
  quotes; only the quote, the backslash and the controls below U+0020 are escaped.
-/

import MiniC.Text.Quoted

namespace MiniC

inductive Json where
  | null
  | bool (b : Bool)
  | int (n : Int)
  | text (t : String)
  | list (items : List Json)
  | object (fields : List (String × Json))
  deriving Repr

namespace Json

/-- A character as it stands inside a JSON text. -/
def escape (c : Char) : List Char :=
  if c = '"' ∨ c = '\\' then ['\\', c]
  else if c = '\n' then ['\\', 'n']
  else if c = '\r' then ['\\', 'r']
  else if c = '\t' then ['\\', 't']
  else if c = '\x08' then ['\\', 'b']
  else if c = '\x0c' then ['\\', 'f']
  else if c.toNat < 0x20 then '\\' :: 'u' :: Text.hex 4 c.toNat
  else [c]

def quote (t : String) : String :=
  String.ofList ('"' :: t.toList.flatMap escape ++ ['"'])

/-- A line feed and the spaces of a depth. -/
def newline (depth : Nat) : String := String.ofList ('\n' :: List.replicate (2 * depth) ' ')

/-- What stands between two brackets: each part on a line of its own, or nothing. -/
def enclose (depth : Nat) (left right : String) : List String → String
  | [] => left ++ right
  | parts =>
    left ++ newline (depth + 1) ++ ("," ++ newline (depth + 1)).intercalate parts
      ++ newline depth ++ right

mutual

/-- The text of a value that stands at some depth. -/
def prettyAt (depth : Nat) : Json → String
  | null => "null"
  | bool b => if b then "true" else "false"
  | int n => toString n
  | text t => quote t
  | list items => enclose depth "[" "]" (prettyItems (depth + 1) items)
  | object fields => enclose depth "\x7b" "\x7d" (prettyFields (depth + 1) fields)

def prettyItems (depth : Nat) : List Json → List String
  | [] => []
  | v :: rest => prettyAt depth v :: prettyItems depth rest

def prettyFields (depth : Nat) : List (String × Json) → List String
  | [] => []
  | (k, v) :: rest => (quote k ++ ": " ++ prettyAt depth v) :: prettyFields depth rest

end

def pretty (v : Json) : String := prettyAt 0 v

/-- A text, or null. -/
def text? : Option String → Json
  | none => null
  | some t => text t

/-- A number, or null. -/
def int? : Option Int → Json
  | none => null
  | some n => int n

end Json

end MiniC
