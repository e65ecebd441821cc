/-
  MiniC.SymbolTable — the identifiers of a program with what is declared about them.

  There is one row per declaration, in order, with the number of occurrences and the first
  position that the text's tally gives for the name. Where a tally has several entries of
  one name the last of them counts; where it has none, the declaration counts as the one
  occurrence. The entries that no declaration names follow, in the order of the tally.
-/

import MiniC.Declaration
import MiniC.Tally

namespace MiniC

structure SymbolRow where
  name : String
  count : Int
  first : Position
  type : Option String
  scope : Option String
  initial : Option String
  deriving DecidableEq, Repr

namespace SymbolRow

def isDeclared (r : SymbolRow) : Bool := r.type.isSome

/-- The row of a name that is not declared anywhere. -/
def ofRaw (s : RawSymbol) : SymbolRow := ⟨s.name, s.count, s.first, none, none, none⟩

/-- The row of a declaration; `raw` is the tally's entry for its name. -/
def ofDeclaration (d : Declaration) (raw : Option RawSymbol) : SymbolRow where
  name := d.name
  count := (raw.map (·.count)).getD 1
  first := (raw.map (·.first)).getD d.position
  type := d.type
  scope := some d.scope
  initial := d.initial

end SymbolRow

/-- The entry of a tally for `name`: the last, if there are several. -/
def Tally.find? (t : Tally) (name : String) : Option RawSymbol :=
  t.reverse.find? (·.name == name)

/-- The symbol table of a program. -/
def symbolTable (raw : Tally) (declarations : List Declaration) : List SymbolRow :=
  declarations.map (fun d => .ofDeclaration d (raw.find? d.name))
    ++ (raw.filter fun s => !declarations.any (·.name == s.name)).map .ofRaw

end MiniC
