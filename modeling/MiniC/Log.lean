/-
  MiniC.Log — what the passes report about their own work.

  An event is a cause; its level, the channel it is reported on and its wording are
  functions of it. Debug events are reported only while debug logging is on
  (`Event.emitted`); all others always are. An event is printed when its level reaches a
  threshold (`Event.reaches`).
-/

import MiniC.Position
import MiniC.Text.Quoted

namespace MiniC.Log

inductive Level where
  | debug
  | info
  | warning
  deriving DecidableEq, Repr

/-- The severity of a level; a threshold is compared with it. -/
def Level.rank : Level → Nat
  | .debug => 10
  | .info => 20
  | .warning => 30

def Level.name : Level → String
  | .debug => "DEBUG"
  | .info => "INFO"
  | .warning => "WARNING"

inductive Channel where
  | lexer
  | parser
  | analysis
  | config
  deriving DecidableEq, Repr

def Channel.name : Channel → String
  | .lexer => "minic.lexer"
  | .parser => "minic.parser"
  | .analysis => "minic.analysis"
  | .config => "minic.config"

/-- Why a value was passed over. -/
inductive Refusal where
  | notInteger
  | belowOne
  deriving DecidableEq, Repr

def Refusal.message : Refusal → String
  | .notInteger => "not an integer"
  | .belowOne => "must be at least 1"

inductive Event where
  /-- A lexical error was recorded. -/
  | lexError (position : Position) (message : String)
  /-- A whole text has been read. -/
  | lexed (tokens errors identifiers : Nat)
  /-- A syntax error was recorded. -/
  | syntaxError (position : Position) (message : String)
  /-- A whole token list has been parsed. -/
  | parsed (tokens declarations syntaxErrors semanticErrors : Nat)
  /-- A nesting limit was lowered to the deepest one supported. -/
  | limitLowered (asked : Int) (used : Nat)
  /-- Parsing was left out because of lexical errors. -/
  | parseSkipped (errors : Nat)
  /-- A setting of the environment was passed over. -/
  | ignored (name value : String) (why : Refusal)
  deriving DecidableEq, Repr

namespace Event

def level : Event → Level
  | .lexError .. => .debug
  | .lexed .. => .debug
  | .syntaxError .. => .debug
  | .parsed .. => .debug
  | .limitLowered .. => .warning
  | .parseSkipped .. => .info
  | .ignored .. => .warning

def channel : Event → Channel
  | .lexError .. => .lexer
  | .lexed .. => .lexer
  | .syntaxError .. => .parser
  | .parsed .. => .parser
  | .limitLowered .. => .parser
  | .parseSkipped .. => .analysis
  | .ignored .. => .config

def message : Event → String
  | .lexError p m => s!"lexical error at {p.colon}: {m}"
  | .lexed t e i => s!"lexed {t} tokens, {e} errors, {i} identifiers"
  | .syntaxError p m => s!"syntax error at {p.colon}: {m}"
  | .parsed t d s e =>
    s!"parsed {t} tokens: {d} declarations, {s} syntax errors, {e} semantic errors"
  | .limitLowered a u => s!"max_nesting_depth {a} exceeds the stack; using {u}"
  | .parseSkipped n => s!"Skipping syntax analysis: {n} lexical error(s)"
  | .ignored x v w => s!"Ignoring {x}={Text.quote v}: {w.message}"

/-- The event as a line of the log. -/
def line (e : Event) : String := s!"{e.level.name} {e.channel.name}: {e.message}"

/-- Is the event reported, when debug logging is on or off? -/
def emitted (debug : Bool) (e : Event) : Bool := debug || e.level != .debug

/-- Is the event at or above the threshold? -/
def reaches (threshold : Nat) (e : Event) : Bool := threshold ≤ e.level.rank

end Event

end MiniC.Log
