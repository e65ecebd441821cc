/-
  MiniC.Report.Record — tokens, errors, symbols and whole analyses as JSON objects.

  The fields stand in a fixed order, and what is unknown or absent is null.
-/

import MiniC.Analysis
import MiniC.Json

namespace MiniC

/-- The two fields of a position. -/
def Position.fields (p : Position) : List (String × Json) :=
  [("line", .int p.line), ("column", .int p.column)]

def Token.toJson (t : Token) : Json :=
  .object ([("kind", .text t.kind.name), ("lexeme", .text t.lexeme)] ++ t.position.fields)

def Diagnostic.toJson (d : Diagnostic) : Json :=
  .object (("message", .text d.message) :: d.position.fields)

def LexError.toJson (e : LexError) : Json := e.diagnostic.toJson

def SyntaxError.toJson (e : SyntaxError) : Json := e.diagnostic.toJson

def SemanticError.toJson (e : SemanticError) : Json :=
  .object ([("kind", .text e.kind.name), ("name", .text e.name), ("scope", .text e.scope),
    ("message", .text e.message)] ++ e.position.fields ++
    [("previous_line", .int? e.previousLine), ("previous_column", .int? e.previousColumn)])

def RawSymbol.toJson (s : RawSymbol) : Json :=
  .object [("name", .text s.name), ("count", .int s.count), ("first_line", .int s.first.line),
    ("first_column", .int s.first.column)]

def Declaration.toJson (d : Declaration) : Json :=
  .object ([("name", .text d.name), ("declared_type", .text? d.type), ("scope", .text d.scope),
    ("initial_value", .text? d.initial)] ++ d.position.fields)

def SymbolRow.toJson (r : SymbolRow) : Json :=
  .object [("name", .text r.name), ("count", .int r.count), ("first_line", .int r.first.line),
    ("first_column", .int r.first.column), ("declared_type", .text? r.type),
    ("scope", .text? r.scope), ("initial_value", .text? r.initial)]

namespace Analysis

def statsJson (a : Analysis) : Json :=
  .object [("tokens", .int a.tokens.length), ("errors", .int a.errorCount),
    ("symbols", .int a.symbolCount)]

def toJson (a : Analysis) : Json :=
  .object [
    ("ok", .bool a.ok),
    ("parsed", .bool a.parsed),
    ("stats", a.statsJson),
    ("tokens", .list (a.tokens.map (·.toJson))),
    ("counts_by_kind", .object (a.countByKind.map fun (k, n) => (k.name, .int n))),
    ("lex_errors", .list (a.lexErrors.map (·.toJson))),
    ("raw_symbols", .list (a.rawSymbols.map (·.toJson))),
    ("syntax_errors", .list (a.syntaxErrors.map (·.toJson))),
    ("declarations", .list (a.declarations.map (·.toJson))),
    ("semantic_errors", .list (a.semanticErrors.map (·.toJson))),
    ("symbols", .list (a.symbols.map (·.toJson)))]

end Analysis

end MiniC
