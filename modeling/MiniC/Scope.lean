/-
  MiniC.Scope — the stack of scopes that are open.

  A scope is a label. The global scope lies at the bottom and stays there; every block lays
  a label above it, taken from its opening brace (`blockLabel`). Labels are compared as
  texts, so two blocks with one label share a scope.
-/

import MiniC.Token

namespace MiniC

/-- The open scopes: the global one, and above it `inner`, the innermost first. -/
structure ScopeStack where
  inner : List String
  deriving DecidableEq, Repr

namespace ScopeStack

def globalLabel : String := "global"

/-- Only the global scope is open. -/
def base : ScopeStack := ⟨[]⟩

/-- The label of the innermost scope: new declarations go into it. -/
def current (s : ScopeStack) : String := s.inner.headD globalLabel

/-- How many scopes are open above the global one. -/
def depth (s : ScopeStack) : Nat := s.inner.length

def push (s : ScopeStack) (label : String) : ScopeStack := ⟨label :: s.inner⟩

/-- Close the innermost scope and give its label; the global scope does not close. -/
def pop (s : ScopeStack) : Option String × ScopeStack :=
  match s.inner with
  | [] => (none, s)
  | label :: rest => (some label, ⟨rest⟩)

/-- All labels, the global one first. -/
def labels (s : ScopeStack) : List String := globalLabel :: s.inner.reverse

def describe (s : ScopeStack) : String :=
  "ScopeTracker(" ++ " > ".intercalate s.labels ++ ")"

/-- The label of the block that `brace` opens; a block that no brace opens has a plain one. -/
def blockLabel : Option Token → String
  | none => "block"
  | some brace => s!"block@{brace.position.colon}"

end ScopeStack

end MiniC
