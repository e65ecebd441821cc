/-
  MiniC.Lexer — reading a text into tokens.

  A lexer holds a cursor and what has been found up to it. Taking segments (`take`) records
  their faults and tokens, counts the names that they enter, and moves the cursor past them.
  `tokenize` takes every segment of the text that is left. The other operations take one
  segment that the caller names, at the cursor, whatever stands there, and under any
  position.
-/

import MiniC.Cursor
import MiniC.Log
import MiniC.Tally
import MiniC.Lexer.Segment

namespace MiniC

structure Lexer where
  cursor : Cursor
  tokens : List Token
  errors : List LexError
  tally : Tally
  events : List Log.Event
  deriving DecidableEq, Repr

namespace Lexer

def ofText (source : String) : Lexer := ⟨.ofText source, [], [], [], []⟩

/-- Record errors, and report each. -/
def addErrors (l : Lexer) (es : List LexError) : Lexer :=
  { l with
    errors := l.errors ++ es
    events := l.events ++ es.map fun e => .lexError e.position e.fault.message }

def addTokens (l : Lexer) (ts : List Token) : Lexer := { l with tokens := l.tokens ++ ts }

/-- Count names. -/
def addEntries (l : Lexer) (entries : List (String × Position)) : Lexer :=
  { l with tally := l.tally.recordAll entries }

/-- Read segments that stand one after another at the cursor. -/
def take (ps : List Placed) (l : Lexer) : Lexer :=
  let found := l.addErrors (ps.filterMap (·.error?)) |>.addTokens (ps.filterMap (·.token?))
    |>.addEntries (ps.filterMap (·.occurrence?))
  { found with cursor := ps.foldl (fun c p => c.skip p.segment.size) l.cursor }

/-- Read every segment that is left. -/
def run (l : Lexer) : Lexer := l.take (segments l.cursor.position l.cursor.rest)

/-- Read the text that is left, and report what has been found in all. -/
def tokenize (l : Lexer) : Lexer :=
  let l := l.run
  { l with events := l.events ++ [.lexed l.tokens.length l.errors.length l.tally.length] }

/-! ## Single segments -/

def addError (l : Lexer) (e : LexError) : Lexer := l.addErrors [e]

def advance (steps : Int) (l : Lexer) : Lexer := { l with cursor := l.cursor.advance steps }

def skipLineComment (l : Lexer) : Lexer :=
  l.take [⟨Segment.lineComment l.cursor.rest, l.cursor.position⟩]

def skipBlockComment (position : Position) (l : Lexer) : Lexer :=
  l.take [⟨Segment.blockComment l.cursor.rest, position⟩]

def readString (position : Position) (l : Lexer) : Lexer :=
  l.take [⟨Segment.string l.cursor.rest, position⟩]

def readNumber (position : Position) (l : Lexer) : Lexer :=
  l.take [⟨Segment.number l.cursor.rest, position⟩]

def readIdentifier (position : Position) (l : Lexer) : Lexer :=
  l.take [⟨Segment.word l.cursor.rest, position⟩]

def readSymbol (sign : String) (position : Position) (l : Lexer) : Lexer :=
  l.take [⟨Segment.symbol sign l.cursor.rest, position⟩]

end Lexer

/-- What a text has been read into; the symbols are sorted. -/
structure Lexed where
  tokens : List Token
  errors : List LexError
  symbols : Tally
  deriving DecidableEq, Repr

/-- What the lexer has found so far. -/
def Lexer.result (l : Lexer) : Lexed := ⟨l.tokens, l.errors, l.tally.sorted⟩

/-- Read a whole text. -/
def lex (source : String) : Lexer := (Lexer.ofText source).tokenize

/-- The tokens, errors and symbols of a text. -/
def tokenize (source : String) : Lexed := (lex source).result

end MiniC
