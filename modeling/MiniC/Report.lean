/-
  MiniC.Report — what is printed about a source text.

  There are tables of tokens, symbols and declarations, the diagnostics with their
  excerpts, and a summary. A cell for which nothing is known, or that would be empty, holds
  a dash. What stands in a table and the title of the summary are taken as marked up; the
  diagnostics are shown as they are.

  A report is a list of prints, and a console draws them line by line (`draw`). It stops at
  the first print with a text that it refuses.
-/

import MiniC.Diagnostic.Excerpt
import MiniC.Report.Markup
import MiniC.Report.Record
import MiniC.Report.Table

namespace MiniC.Report

/-- What stands before a diagnostic, by the kind of its error. -/
def lexLabel : String := "Lexical error"

def syntaxLabel : String := "Syntax error"

def semanticLabel : String := "Semantic error"

/-- A cell that is never empty. -/
def cell (t : Option String) : String :=
  match t with
  | none => "-"
  | some t => if t = "" then "-" else t

/-! ## Prints -/

/-- What is printed in one go. -/
inductive Print where
  /-- Lines as they are. -/
  | plain (lines : List String)
  /-- A line that is marked up. -/
  | marked (text : String)
  /-- A table whose cells are marked up. -/
  | table (t : Table)
  /-- A panel whose title is marked up. -/
  | panel (title body : String)

namespace Print

/-- The texts that are marked up, in the order in which a console comes to them: it takes a
table column by column. -/
def texts : Print → List String
  | plain _ => []
  | marked text => [text]
  | table t => t.cells
  | panel title _ => [title]

/-- The lines of a print when `shown` tells what is shown of the texts that are marked up. -/
def lines (shown : String → String) : Print → List String
  | plain lines => lines
  | marked text => [shown text]
  | table t => (t.map shown).lines
  | panel title body => Report.panel (shown title) body

end Print

/-- A console: why it refuses a text that is marked up, if it does, and the lines of a print
in which it refuses none, with or without colours. -/
structure Console where
  refusal? : String → Option String
  lines : (colour : Bool) → Print → List String

/-- The console of a channel that shows no colours. -/
def Console.standard : Console where
  refusal? text := (Markup.fault? text).map (·.message)
  lines _ p := p.lines Markup.shown

/-- The lines of the prints up to the first one that the console refuses, and why. -/
def draw (console : Console) (colour : Bool) : List Print → List String × Option String
  | [] => ([], none)
  | p :: ps =>
    match p.texts.findSome? console.refusal? with
    | some why => ([], some why)
    | none =>
      let (lines, why) := draw console colour ps
      (console.lines colour p ++ lines, why)

/-! ## The parts of a report -/

def tokenTable (ts : List Token) : Table where
  title := "Tokens"
  columns := [⟨"Kind", .left⟩, ⟨"Lexeme", .left⟩, ⟨"Line", .right⟩, ⟨"Column", .right⟩]
  rows := ts.map fun t =>
    [t.kind.name, t.lexeme, toString t.position.line, toString t.position.column]

def symbolsTable (rows : List SymbolRow) : Table where
  title := "Symbols"
  columns := [⟨"Identifier", .left⟩, ⟨"Occurrences", .right⟩, ⟨"First seen", .left⟩,
    ⟨"Type", .left⟩, ⟨"Scope", .left⟩, ⟨"Value", .left⟩]
  rows := rows.map fun r =>
    [r.name, toString r.count, r.first.cell, cell r.type, cell r.scope, cell r.initial]

/-- The table of identifiers without types. -/
def tallyTable (t : Tally) : Table := symbolsTable (t.map .ofRaw)

def declarationTable (ds : List Declaration) : Table where
  title := "Declarations"
  columns := [⟨"Name", .left⟩, ⟨"Type", .left⟩, ⟨"Scope", .left⟩, ⟨"Value", .left⟩,
    ⟨"Position", .left⟩]
  rows := ds.map fun d => [d.name, cell d.type, d.scope, cell d.initial, d.position.cell]

def lexDiagnostics (source : String) (es : List LexError) : List String :=
  es.map fun e => e.diagnostic.render source lexLabel

def syntaxDiagnostics (source : String) (es : List SyntaxError) : List String :=
  es.map fun e => e.diagnostic.render source syntaxLabel

def semanticDiagnostics (source : String) (es : List SemanticError) : List String :=
  es.map fun e => e.diagnostic.render source semanticLabel

/-- The line that says how many tokens there are of each kind, if there are any. -/
def kindCounts (ts : List Token) : List String :=
  match Token.countByKind ts with
  | [] => []
  | counts =>
    let entries := counts.map fun (k, n) => s!"{k.name}: {n}"
    ["By kind: " ++ ", ".intercalate entries]

def summary (a : Analysis) : String :=
  s!"{a.tokens.length} tokens • {a.errorCount} errors • {a.symbolCount} symbols"

def skipped : String := "Syntax analysis skipped until lexical errors are fixed."

/-- `lines` under a heading, or nothing. -/
def headed (heading : String) (lines : List String) : List String :=
  if lines.isEmpty then [] else heading :: lines

/-! ## The four reports -/

def tokens (source : String) (l : Lexed) : List Print :=
  [.table (tokenTable l.tokens), .plain (kindCounts l.tokens),
    .plain (headed "Lexical Errors:" (lexDiagnostics source l.errors))]

def check (source : String) (a : Analysis) : List Print :=
  if a.ok then [.plain ["✅ No errors found!"]]
  else
    [.plain (lexDiagnostics source a.lexErrors), .plain (if a.parsed then [] else [skipped]),
      .plain (syntaxDiagnostics source a.syntaxErrors),
      .plain (semanticDiagnostics source a.semanticErrors),
      .plain [s!"❌ {a.errorCount} error(s)"]]

def symbols (a : Analysis) : List Print :=
  if !a.parsed then
    [.plain ["Lexical errors found: showing identifiers without types."],
      .table (tallyTable a.rawSymbols)]
  else if a.symbols.isEmpty then [.plain ["No identifiers found."]]
  else [.table (symbolsTable a.symbols)]

def full (file source : String) (a : Analysis) : List Print :=
  [.panel ("[bold blue]" ++ file ++ "[/bold blue]") (summary a), .table (tokenTable a.tokens),
    .plain (headed "Lexical Errors:" (lexDiagnostics source a.lexErrors))]
    ++ if a.parsed then
        [.plain (headed "Syntax Errors:" (syntaxDiagnostics source a.syntaxErrors)),
          .plain (headed "Semantic Errors:" (semanticDiagnostics source a.semanticErrors))]
          ++ (if a.declarations.isEmpty then [] else [.table (declarationTable a.declarations)])
          ++ [.table (symbolsTable a.symbols)]
      else [.plain [skipped], .table (tallyTable a.rawSymbols)]

/-- The analysis as a record. -/
def json (a : Analysis) : List Print := [.plain [a.toJson.pretty]]

/-- What is said about a source that cannot be read. -/
def unreadable (message : String) : List Print := [.marked ("[bold red]Error:[/bold red] " ++ message)]

/-- Lines as a text, each with its line feed. -/
def text (lines : List String) : String := String.join (lines.map (· ++ "\n"))

end MiniC.Report
