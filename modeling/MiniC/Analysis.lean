/-
  MiniC.Analysis — the whole analysis of a source text.

  A text is read into tokens, and parsed only if that gave no lexical error; then the
  symbol table is made from the tally and the declarations. An analysis that was not parsed
  has no syntax errors, declarations, semantic errors or table rows.
-/

import MiniC.Lexer
import MiniC.Parser
import MiniC.SymbolTable

namespace MiniC

structure Analysis where
  tokens : List Token
  lexErrors : List LexError
  rawSymbols : Tally
  syntaxErrors : List SyntaxError
  declarations : List Declaration
  semanticErrors : List SemanticError
  symbols : List SymbolRow
  parsed : Bool
  deriving DecidableEq, Repr

namespace Analysis

def ok (a : Analysis) : Bool :=
  a.lexErrors.isEmpty && a.syntaxErrors.isEmpty && a.semanticErrors.isEmpty

def errorCount (a : Analysis) : Nat :=
  a.lexErrors.length + a.syntaxErrors.length + a.semanticErrors.length

/-- How many symbols there are: table rows, or names if there is no table. -/
def symbolCount (a : Analysis) : Nat :=
  if a.parsed then a.symbols.length else a.rawSymbols.length

def countByKind (a : Analysis) : List (TokenKind × Nat) := Token.countByKind a.tokens

/-- An analysis that ends with the lexical errors. -/
def unparsed (l : Lexed) : Analysis where
  tokens := l.tokens
  lexErrors := l.errors
  rawSymbols := l.symbols
  syntaxErrors := []
  declarations := []
  semanticErrors := []
  symbols := []
  parsed := false

/-- An analysis of tokens that have been parsed. -/
def ofParsed (l : Lexed) (p : Parsed) : Analysis where
  tokens := l.tokens
  lexErrors := l.errors
  rawSymbols := l.symbols
  syntaxErrors := p.errors
  declarations := p.declarations
  semanticErrors := p.semanticErrors
  symbols := symbolTable l.symbols p.declarations
  parsed := true

end Analysis

/-- Analyze a text under the nesting limit `asked` for, and report what was done. -/
def analyzeLogged (source : String) (asked : Int) :
    Except LimitFault (Analysis × List Log.Event) :=
  let lexer := lex source
  let lexed := lexer.result
  if lexed.errors.isEmpty then
    (Parser.ofTokens lexed.tokens asked).map fun parser =>
      let parser := parser.parse
      (.ofParsed lexed parser.result, lexer.events ++ parser.events)
  else .ok (.unparsed lexed, lexer.events ++ [.parseSkipped lexed.errors.length])

/-- The analysis of a text under a nesting limit that is in force. -/
def analyze (source : String) (limit : Nat) : Analysis :=
  let lexed := tokenize source
  if lexed.errors.isEmpty then .ofParsed lexed (parse lexed.tokens limit) else .unparsed lexed

end MiniC
