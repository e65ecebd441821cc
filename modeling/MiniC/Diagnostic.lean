/-
  MiniC.Diagnostic — the errors found in a source text.

  An error is a fault at a position. A fault is a cause, and its wording is one function
  of it; the constructors named `stated` carry a wording chosen elsewhere. A semantic
  error also points back to the declaration it collides with, as far as that is known.
-/

import MiniC.Position

namespace MiniC

/-- A message at a position: what every error has in common. -/
structure Diagnostic where
  message : String
  position : Position
  deriving DecidableEq, Repr

/-- The diagnostic as one line of text, under the name of its class. -/
def Diagnostic.summary (d : Diagnostic) (className : String) : String :=
  s!"[{className}] {d.position.words}: {d.message}"

/-! ## Lexical errors -/

inductive LexFault where
  | unterminatedComment
  | unterminatedString
  /-- A numeral that runs into letters; `text` is all of it. -/
  | invalidNumber (text : String)
  | unrecognizedSymbol (text : String)
  | stated (message : String)
  deriving DecidableEq, Repr

def LexFault.message : LexFault → String
  | .unterminatedComment => "unterminated block comment"
  | .unterminatedString => "unterminated string"
  | .invalidNumber t => s!"invalid number: '{t}'"
  | .unrecognizedSymbol t => s!"unrecognized symbol: '{t}'"
  | .stated m => m

structure LexError where
  fault : LexFault
  position : Position
  deriving DecidableEq, Repr

def LexError.diagnostic (e : LexError) : Diagnostic := ⟨e.fault.message, e.position⟩

def LexError.summary (e : LexError) : String := e.diagnostic.summary "LexError"

/-! ## Syntax errors -/

/-- What the grammar calls for at some place. -/
inductive Expectation where
  | type
  | identifier
  | declarationEnd
  | ifKeyword
  | conditionOpen
  | conditionClose
  | blockOpen
  | blockClose
  | expressionEnd
  | groupClose
  deriving DecidableEq, Repr

def Expectation.message : Expectation → String
  | .type => "expected a type (int, float, bool, string)"
  | .identifier => "expected an identifier after the type"
  | .declarationEnd => "expected ';' at the end of the variable declaration"
  | .ifKeyword => "expected 'if'"
  | .conditionOpen => "expected '(' after 'if'"
  | .conditionClose => "expected ')' after the 'if' condition"
  | .blockOpen => "expected '\x7b' to open the block"
  | .blockClose => "expected '\x7d' to close the block"
  | .expressionEnd => "expected ';' at the end of the expression"
  | .groupClose => "expected ')' after the expression"

inductive SyntaxFault where
  | expected (what : Expectation)
  /-- A statement or a parenthesis that would be nested deeper than the limit. -/
  | tooDeep (lexeme : String)
  /-- A token that no expression starts with. -/
  | invalidExpression (lexeme : String)
  | stated (message : String)
  deriving DecidableEq, Repr

def SyntaxFault.message : SyntaxFault → String
  | .expected w => w.message
  | .tooDeep l => s!"nesting too deep near '{l}'"
  | .invalidExpression l => s!"invalid expression near '{l}'"
  | .stated m => m

structure SyntaxError where
  fault : SyntaxFault
  position : Position
  deriving DecidableEq, Repr

def SyntaxError.diagnostic (e : SyntaxError) : Diagnostic := ⟨e.fault.message, e.position⟩

def SyntaxError.summary (e : SyntaxError) : String := e.diagnostic.summary "SyntaxError"

/-! ## Semantic errors -/

inductive SemanticErrorKind where
  | redeclaration
  deriving DecidableEq, Repr

def SemanticErrorKind.name : SemanticErrorKind → String
  | .redeclaration => "Redeclaration"

def SemanticErrorKind.ofName? (name : String) : Option SemanticErrorKind :=
  if name = SemanticErrorKind.redeclaration.name then some .redeclaration else none

structure SemanticError where
  kind : SemanticErrorKind
  name : String
  scope : String
  message : String
  position : Position
  /-- Where the earlier declaration stands, as far as it is known. -/
  previousLine : Option Int
  previousColumn : Option Int
  deriving DecidableEq, Repr

namespace SemanticError

/-- `name`, declared at `position` in `scope`, was declared there at `previous` before. -/
def redeclared (name scope : String) (position previous : Position) : SemanticError where
  kind := .redeclaration
  name := name
  scope := scope
  message := s!"variable '{name}' is already declared in scope '{scope}'"
  position := position
  previousLine := some previous.line
  previousColumn := some previous.column

def diagnostic (e : SemanticError) : Diagnostic := ⟨e.message, e.position⟩

/-- The text of a number that may be unknown. -/
def known : Option Int → String
  | none => "None"
  | some n => toString n

/-- The error as one line of text; it names the earlier declaration when its line is known. -/
def summary (e : SemanticError) : String :=
  e.diagnostic.summary e.kind.name ++
    match e.previousLine with
    | none => ""
    | some l => s!" (previous declaration at line {l}, column {known e.previousColumn})"

end SemanticError

end MiniC
