import MiniC.Analysis
import MiniC.CommandLine
import MiniC.Diagnostic.Excerpt
import MiniC.Main
import MiniC.Proofs.CommandLine.Ending
import MiniC.Proofs.CommandLine.Session
import MiniC.Proofs.Configuration
import MiniC.Proofs.Continuation.Reading
import MiniC.Proofs.Grammar.Nesting
import MiniC.Proofs.Grammar.Scoping
import MiniC.Proofs.Grammar.Sequence
import MiniC.Proofs.Grammar.Unfinished
import MiniC.Proofs.Layout.Analysis
import MiniC.Proofs.Lexer.LineEnds
import MiniC.Proofs.Lexer.Location
import MiniC.Proofs.Lexer.Operations
import MiniC.Proofs.Parser.CallDepth
import MiniC.Proofs.Parser.Index
import MiniC.Proofs.Parser.Limit
import MiniC.Proofs.Parser.Operations
import MiniC.Proofs.Source
import MiniC.Proofs.SymbolTable
import MiniC.Proofs.Text.Utf8
import MiniC.Proofs.Walk.Errors
import MiniC.Proofs.Walk.InitialValue
import MiniC.Report
import MiniC.Settings
import MiniC.Source
