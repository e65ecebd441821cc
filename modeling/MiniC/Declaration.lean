/-
  MiniC.Declaration — the variables declared in a program, and which name is taken where.

  A name may be declared once per scope: the first declaration of a (scope, name) pair is
  kept, and every later one is an error that points back to it (`Register.declare`). A
  register keeps the declarations in order, and beside them an index by scope and name.
-/

import MiniC.Diagnostic
import Std.Data.TreeMap

namespace MiniC

structure Declaration where
  name : String
  /-- The name of the type, if one was given. -/
  type : Option String
  scope : String
  /-- The lexemes of the initial value, one space between each two. -/
  initial : Option String
  position : Position
  deriving DecidableEq, Repr

/-- What a declaration is found by. -/
structure DeclarationKey where
  scope : String
  name : String
  deriving DecidableEq, Repr

namespace DeclarationKey

/-- Scopes are compared first, then names. -/
def order : DeclarationKey → DeclarationKey → Ordering :=
  compareLex (compareOn scope) (compareOn name)

instance : Std.TransCmp order :=
  inferInstanceAs (Std.TransCmp (compareLex (compareOn scope) (compareOn name)))

/-- Keys that no comparison tells apart are equal. -/
instance : Std.LawfulEqCmp order where
  eq_of_compare {a b} h := by
    obtain ⟨hs, hn⟩ := Ordering.then_eq_eq.1 h
    obtain ⟨s, n⟩ := a
    obtain ⟨s', n'⟩ := b
    exact congr (congrArg mk (Std.LawfulEqCmp.eq_of_compare hs))
      (Std.LawfulEqCmp.eq_of_compare hn)

end DeclarationKey

def Declaration.key (d : Declaration) : DeclarationKey := ⟨d.scope, d.name⟩

/-- The declarations made so far, in order, and the errors of those refused. -/
structure Register where
  declarations : List Declaration
  errors : List SemanticError
  index : Std.TreeMap DeclarationKey Declaration DeclarationKey.order

namespace Register

def empty : Register := ⟨[], [], ∅⟩

/-- Record `d`, unless its name is taken in its scope; then record the error. -/
def declare (r : Register) (d : Declaration) : Register :=
  match r.index[d.key]? with
  | some previous =>
    { r with errors := r.errors ++ [.redeclared d.name d.scope d.position previous.position] }
  | none =>
    { r with declarations := r.declarations ++ [d], index := r.index.insert d.key d }

/-- What the index knows after a declaration: the first of its key. -/
theorem getElem?_declare (r : Register) (d : Declaration) (k : DeclarationKey) :
    (r.declare d).index[k]? = if d.key = k then r.index[k]? <|> some d else r.index[k]? := by
  unfold declare
  split
  · next previous h => split <;> simp_all
  · next h =>
    rw [Std.TreeMap.getElem?_insert]
    by_cases hk : d.key = k
    · subst hk
      simp [h]
    · rw [if_neg hk, if_neg fun hc => hk (Std.LawfulEqCmp.eq_of_compare hc)]

end Register

end MiniC
