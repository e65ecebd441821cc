/-
  MiniC.Parser — parsing a token list.

  A parser stands at a place in a fixed token list, with scopes open and blocks nested
  around it, and holds what it has found. Reading a phrase (`read`) takes the findings of
  `Phrase.read` one after another (`note`), each in the state that those before it left, and
  moves to the tokens that reading leaves. `parse` reads a whole program. The other
  operations use up or note single things.
-/

import MiniC.Declaration
import MiniC.Log
import MiniC.Parser.Phrase
import MiniC.Scope

namespace MiniC

/-! ## The nesting limit -/

/-- The deepest nesting that a limit can ask for; a limit above it is lowered to it. -/
def deepestNesting : Nat := 266

/-- A limit that is not a limit. -/
inductive LimitFault where
  | belowOne
  deriving DecidableEq, Repr

def LimitFault.message : LimitFault → String
  | .belowOne => "max_nesting_depth must be at least 1"

/-- The limit in force when `asked` is asked for, and what is reported about it. -/
def limitFor (asked : Int) : Except LimitFault (Nat × List Log.Event) :=
  if asked < 1 then .error .belowOne
  else if asked ≤ deepestNesting then .ok (asked.toNat, [])
  else .ok (deepestNesting, [.limitLowered asked deepestNesting])

/-! ## The parser -/

structure Parser where
  tokens : List Token
  limit : Nat
  /-- How many tokens have been used up. -/
  offset : Nat
  nesting : Nat
  scopes : ScopeStack
  errors : List SyntaxError
  register : Register
  events : List Log.Event

namespace Parser

/-- A parser at the start of `tokens`, under a limit that is in force. -/
def start (tokens : List Token) (limit : Nat) (events : List Log.Event) : Parser where
  tokens := tokens
  limit := limit
  offset := 0
  nesting := 0
  scopes := .base
  errors := []
  register := .empty
  events := events

/-- A parser at the start of `tokens`, under the limit that is asked for. -/
def ofTokens (tokens : List Token) (asked : Int) : Except LimitFault Parser :=
  (limitFor asked).map fun (limit, events) => start tokens limit events

def rest (p : Parser) : List Token := p.tokens.drop p.offset

/-- The token used up last. -/
def last (p : Parser) : Option Token := (p.tokens.take p.offset).getLast?

def atEnd (p : Parser) : Bool := p.rest.isEmpty

def peek (p : Parser) : Option Token := p.rest.head?

/-- Use up one token and give it; at the end, give the last one again. -/
def advance (p : Parser) : Option Token × Parser :=
  match p.rest with
  | [] => (p.tokens.getLast?, p)
  | t :: _ => (some t, { p with offset := p.offset + 1 })

/-- Where a fault at `token` is noted. One at no token is noted at the token used up last,
or at the last of the list if there is none, or else at the start of a text. -/
def place (p : Parser) (token : Option Token) : Position :=
  match token <|> p.last <|> p.tokens.getLast? with
  | some t => t.position
  | none => .start

/-- Record errors, and report each. -/
def addErrors (p : Parser) (es : List SyntaxError) : Parser :=
  { p with
    errors := p.errors ++ es
    events := p.events ++ es.map fun e => .syntaxError e.position e.fault.message }

def addFault (p : Parser) (token : Option Token) (f : SyntaxFault) : Parser :=
  p.addErrors [⟨f, p.place token⟩]

/-- Declare `name` in the innermost open scope. -/
def declare (p : Parser) (name : Token) (type : String) (initial : Option String) : Parser :=
  { p with
    register := p.register.declare
      ⟨name.lexeme, some type, p.scopes.current, initial, name.position⟩ }

/-! ## Single tokens -/

/-- Use up the next token, and give it if it is `wanted`; if not, note the fault. -/
def consume (p : Parser) (wanted : Token → Bool) (f : SyntaxFault) : Option Token × Parser :=
  match p.peek with
  | none => (none, p.addFault none f)
  | some t => if wanted t then p.advance else (none, (p.addFault (some t) f).advance.2)

def consumeDelimiter (p : Parser) (mark message : String) : Option Token × Parser :=
  p.consume (·.isDelimiter mark) (.stated message)

def consumeKeyword (p : Parser) (word message : String) : Option Token × Parser :=
  p.consume (·.isKeyword word) (.stated message)

def consumeIdentifier (p : Parser) (message : String) : Option Token × Parser :=
  p.consume (·.isIdentifier) (.stated message)

/-- Is there no room for one more level? Then note it at `token` and use up one token. -/
def tooDeep (p : Parser) (token : Token) : Bool × Parser :=
  if p.nesting < p.limit then (false, p)
  else (true, (p.addFault (some token) (.tooDeep token.lexeme)).advance.2)

def pushScope (p : Parser) (label : String) : Parser := { p with scopes := p.scopes.push label }

def popScope (p : Parser) : Option String × Parser :=
  let (label, scopes) := p.scopes.pop
  (label, { p with scopes := scopes })

/-! ## Phrases -/

/-- Where the parser stands, for reading a phrase. -/
def site (p : Parser) : Site where
  limit := p.limit
  depth := p.nesting
  finish := match p.tokens.getLast? with
    | some t => t.position
    | none => .start

/-- Take one finding. -/
def note (p : Parser) : Finding → Parser
  | .fault e => p.addErrors [e]
  | .opened brace => p.pushScope (ScopeStack.blockLabel brace)
  | .closed => p.popScope.2
  | .descended => { p with nesting := p.nesting + 1 }
  | .ascended => { p with nesting := p.nesting - 1 }
  | .declared type name initial => p.declare name type.lexeme initial

/-- Take findings, one after another. -/
def record (p : Parser) (found : List Finding) : Parser := found.foldl note p

/-- Read a phrase at the place of the parser. -/
def read (p : Parser) (phrase : Phrase) : Parser :=
  let reading := phrase.read p.site p.rest
  { p.record reading.found with offset := p.tokens.length - reading.rest.length }

/-- Read the program that is left, and report what has been found in all. -/
def parse (p : Parser) : Parser :=
  let p := p.read .program
  { p with
    events := p.events ++ [.parsed p.tokens.length p.register.declarations.length
      p.errors.length p.register.errors.length] }

end Parser

/-- What a token list has been parsed into. -/
structure Parsed where
  errors : List SyntaxError
  declarations : List Declaration
  semanticErrors : List SemanticError
  deriving DecidableEq, Repr

/-- What the parser has found so far. -/
def Parser.result (p : Parser) : Parsed := ⟨p.errors, p.register.declarations, p.register.errors⟩

/-- Parse `tokens` under a limit that is in force. -/
def parse (tokens : List Token) (limit : Nat) : Parsed :=
  ((Parser.start tokens limit []).parse).result

end MiniC
