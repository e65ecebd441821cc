/-
  MiniC.Proofs.Layout.Analysis — an analysis does not depend on the layout of its text.

  Two texts without lexical errors whose tokens agree in kind and lexeme may differ in their
  whitespace, their line breaks and their comments. Positions in the one correspond to
  positions in the other where the tokens have the same index (`SamePlace`), and scopes do
  where their labels are both plain or name such tokens (`SameScope`).

  Proved: `analysis_layout`, that the two analyses correspond in all that they hold
  (`Analysis.Corresponds`), under any nesting limit, with or without syntax errors.
-/

import Mathlib.Data.List.Forall2
import MiniC.Proofs.Analysis
import MiniC.Proofs.Layout.Reading

namespace MiniC

/-! ## Correspondence -/

section
variable (ts us : List Token)

/-- The two positions are those of the tokens of one index. -/
def SamePlace (p q : Position) : Prop :=
  ∃ (i : Nat) (t u : Token), ts[i]? = some t ∧ us[i]? = some u ∧ t.position = p ∧ u.position = q

/-- The two labels are both global, both those of a block without a brace, or those of the
tokens of one index. -/
inductive SameScope : String → String → Prop
  | global : SameScope "global" "global"
  | unopened : SameScope "block" "block"
  | opened {i : Nat} {t u : Token} : ts[i]? = some t → us[i]? = some u →
      SameScope s!"block@{t.position.line}:{t.position.column}"
        s!"block@{u.position.line}:{u.position.column}"

structure RawSymbol.Corresponds (s s' : RawSymbol) : Prop where
  name : s.name = s'.name
  count : s.count = s'.count
  first : SamePlace ts us s.first s'.first

structure SyntaxError.Corresponds (e e' : SyntaxError) : Prop where
  fault : e.fault = e'.fault
  place : SamePlace ts us e.position e'.position

structure Declaration.Corresponds (d d' : Declaration) : Prop where
  name : d.name = d'.name
  type : d.type = d'.type
  initial : d.initial = d'.initial
  scope : SameScope ts us d.scope d'.scope
  place : SamePlace ts us d.position d'.position

/-- The error says that its name was declared in its scope before, at the position. -/
structure SemanticError.Redeclares (e : SemanticError) (previous : Position) : Prop where
  kind : e.kind = .redeclaration
  message : e.message = s!"variable '{e.name}' is already declared in scope '{e.scope}'"
  previousLine : e.previousLine = some previous.line
  previousColumn : e.previousColumn = some previous.column

/-- Both are refusals of one name, in scopes and at places that correspond, and so do the
places that they point back to. -/
structure SemanticError.Corresponds (e e' : SemanticError) : Prop where
  name : e.name = e'.name
  scope : SameScope ts us e.scope e'.scope
  place : SamePlace ts us e.position e'.position
  previous : ∃ p p', e.Redeclares p ∧ e'.Redeclares p' ∧ SamePlace ts us p p'

structure SymbolRow.Corresponds (r r' : SymbolRow) : Prop where
  name : r.name = r'.name
  count : r.count = r'.count
  type : r.type = r'.type
  initial : r.initial = r'.initial
  scope : Option.Rel (SameScope ts us) r.scope r'.scope
  first : SamePlace ts us r.first r'.first

end

/-- The two analyses hold the same, up to where their tokens stand. -/
structure Analysis.Corresponds (a b : Analysis) : Prop where
  tokens : a.tokens.map Token.form = b.tokens.map Token.form
  lexErrors : a.lexErrors = b.lexErrors
  parsed : a.parsed = b.parsed
  rawSymbols : List.Forall₂ (RawSymbol.Corresponds a.tokens b.tokens) a.rawSymbols b.rawSymbols
  syntaxErrors :
    List.Forall₂ (SyntaxError.Corresponds a.tokens b.tokens) a.syntaxErrors b.syntaxErrors
  declarations :
    List.Forall₂ (Declaration.Corresponds a.tokens b.tokens) a.declarations b.declarations
  semanticErrors :
    List.Forall₂ (SemanticError.Corresponds a.tokens b.tokens) a.semanticErrors b.semanticErrors
  symbols : List.Forall₂ (SymbolRow.Corresponds a.tokens b.tokens) a.symbols b.symbols

namespace Analysis.Corresponds

variable {a b : Analysis}

theorem length_eq (h : a.Corresponds b) : a.tokens.length = b.tokens.length := by
  have lengths := congrArg List.length h.tokens
  rwa [List.length_map, List.length_map] at lengths

theorem ok_eq (h : a.Corresponds b) : a.ok = b.ok := by
  have empty {α β : Type} {R : α → β → Prop} {xs : List α} {ys : List β}
      (pairs : List.Forall₂ R xs ys) : xs.isEmpty = ys.isEmpty := by
    cases pairs <;> rfl
  unfold Analysis.ok
  rw [h.lexErrors, empty h.syntaxErrors, empty h.semanticErrors]

theorem errorCount_eq (h : a.Corresponds b) : a.errorCount = b.errorCount := by
  unfold Analysis.errorCount
  rw [h.lexErrors, h.syntaxErrors.length_eq, h.semanticErrors.length_eq]

theorem symbolCount_eq (h : a.Corresponds b) : a.symbolCount = b.symbolCount := by
  unfold Analysis.symbolCount
  rw [h.parsed, h.rawSymbols.length_eq, h.symbols.length_eq]

end Analysis.Corresponds

/-! ## Places and scopes -/

theorem samePlace_move {ts : List Token} {p : Position} (f : Position → Position)
    (h : p ∈ ts.map (·.position)) : SamePlace ts (ts.map (Token.move f)) p (f p) := by
  obtain ⟨t, mem, rfl⟩ := List.mem_map.1 h
  obtain ⟨i, at_⟩ := List.mem_iff_getElem?.1 mem
  exact ⟨i, t, t.move f, at_, by rw [List.getElem?_map, at_]; rfl, rfl, rfl⟩

theorem SamePlace.opened {ts us : List Token} {t u : Token} (h : SamePlace ts us t.position u.position) :
    SameScope ts us s!"block@{t.position.line}:{t.position.column}"
      s!"block@{u.position.line}:{u.position.column}" := by
  obtain ⟨i, t', u', at_, at_', place, place'⟩ := h
  rw [← place, ← place']
  exact .opened at_ at_'

section
variable {ts : List Token} {limit : Nat} (f : Position → Position)

theorem Variable.sameScope_move {v : Variable} (h : v ∈ allVariables ts limit) :
    SameScope ts (ts.map (Token.move f)) v.scope (v.move f).scope := by
  have known := (position_mem_of_variable h).2
  unfold Variable.scope Variable.move Block.move Block.label
  cases block : v.block with
  | none => exact .global
  | some b =>
    cases brace : b.brace with
    | none =>
      simp only [Option.map_some, Option.getD_some, brace]
      exact .unopened
    | some t =>
      simp only [Option.map_some, Option.getD_some, brace]
      exact (samePlace_move f (known b t block brace)).opened

theorem Variable.declaration_move {v : Variable} (h : v ∈ allVariables ts limit) :
    Declaration.Corresponds ts (ts.map (Token.move f)) v.declaration (v.move f).declaration where
  name := rfl
  type := rfl
  initial := rfl
  scope := v.sameScope_move f h
  place := samePlace_move f (position_mem_of_variable h).1

theorem Variable.refusal_redeclares (v w : Variable) :
    (v.refusal w).Redeclares w.name.position :=
  ⟨rfl, rfl, rfl, rfl⟩

theorem Variable.refusal_move {v w : Variable} (hv : v ∈ allVariables ts limit)
    (hw : w ∈ allVariables ts limit) :
    SemanticError.Corresponds ts (ts.map (Token.move f)) (v.refusal w)
      ((v.move f).refusal (w.move f)) where
  name := rfl
  scope := v.sameScope_move f hv
  place := samePlace_move f (position_mem_of_variable hv).1
  previous := ⟨w.name.position, f w.name.position, v.refusal_redeclares w,
    (v.move f).refusal_redeclares (w.move f), samePlace_move f (position_mem_of_variable hw).1⟩

/-! ## Declarations and refusals -/

variable {g : Position → Position}

theorem Variable.move_back (back : (ts.map (Token.move f)).map (Token.move g) = ts) :
    ∀ v ∈ allVariables ts limit, (v.move f).move g = v := by
  refine eq_of_map_eq ?_
  have moved := allVariables_move g (ts.map (Token.move f)) limit
  rw [back, allVariables_move, List.map_map] at moved
  exact moved.symm

/-- What is declared and what is refused correspond. -/
theorem parse_register_move (inOrder : InOrder ts) (inOrder' : InOrder (ts.map (Token.move f)))
    (back : (ts.map (Token.move f)).map (Token.move g) = ts) :
    List.Forall₂ (Declaration.Corresponds ts (ts.map (Token.move f)))
        (parse ts limit).declarations (parse (ts.map (Token.move f)) limit).declarations ∧
      List.Forall₂ (SemanticError.Corresponds ts (ts.map (Token.move f)))
        (parse ts limit).semanticErrors (parse (ts.map (Token.move f)) limit).semanticErrors := by
  have clash : ∀ v ∈ [] ++ allVariables ts limit, ∀ w ∈ [] ++ allVariables ts limit,
      (v.move f).Clash (w.move f) ↔ v.Clash w :=
    fun v hv w hw => Variable.clash_move_iff (v.move_back f back hv) (w.move_back f back hw)
  obtain ⟨kept, refused⟩ := firsts_repeats_map clash
  rw [List.map_nil, ← allVariables_move] at kept refused
  obtain ⟨declarations, errors⟩ := parse_variables inOrder limit
  obtain ⟨declarations', errors'⟩ := parse_variables inOrder' limit
  constructor
  · rw [declarations, declarations', kept, List.map_map, List.forall₂_map_left_iff,
      List.forall₂_map_right_iff, List.forall₂_same]
    exact fun v mem => v.declaration_move f (mem_of_mem_firsts mem)
  · rw [errors, errors', refused, List.map_map, List.forall₂_map_left_iff,
      List.forall₂_map_right_iff, List.forall₂_same]
    intro (v, w) mem
    obtain ⟨hv, hw⟩ := mem_of_mem_repeats mem
    exact v.refusal_move f hv hw

/-! ## Symbols -/

theorem Tally.find?_move (raw : Tally) (name : String) :
    Tally.find? (raw.map (RawSymbol.move f)) name = (raw.find? name).map (RawSymbol.move f) := by
  unfold Tally.find?
  rw [← List.map_reverse, List.find?_map]
  rfl

theorem any_name_eq {us : List Token} {ds ds' : List Declaration}
    (alike : List.Forall₂ (Declaration.Corresponds ts us) ds ds') (name : String) :
    ds.any (·.name == name) = ds'.any (·.name == name) := by
  induction alike with
  | nil => rfl
  | cons head _ ih => rw [List.any_cons, List.any_cons, head.name, ih]

theorem tally_move {raw : Tally} (places : ∀ s ∈ raw, s.first ∈ ts.map (·.position)) :
    List.Forall₂ (RawSymbol.Corresponds ts (ts.map (Token.move f))) raw
      (raw.map (RawSymbol.move f)) := by
  rw [List.forall₂_map_right_iff, List.forall₂_same]
  exact fun s mem => ⟨rfl, rfl, samePlace_move f (places s mem)⟩

theorem symbolTable_move {raw : Tally} {ds ds' : List Declaration}
    (places : ∀ s ∈ raw, s.first ∈ ts.map (·.position))
    (alike : List.Forall₂ (Declaration.Corresponds ts (ts.map (Token.move f))) ds ds') :
    List.Forall₂ (SymbolRow.Corresponds ts (ts.map (Token.move f))) (symbolTable raw ds)
      (symbolTable (raw.map (RawSymbol.move f)) ds') := by
  have declared : List.Forall₂ (SymbolRow.Corresponds ts (ts.map (Token.move f)))
      (ds.map fun d => .ofDeclaration d (raw.find? d.name))
      (ds'.map fun d => .ofDeclaration d (Tally.find? (raw.map (RawSymbol.move f)) d.name)) := by
    rw [List.forall₂_map_left_iff, List.forall₂_map_right_iff]
    refine alike.imp fun d d' h => ?_
    rw [← h.name, Tally.find?_move]
    cases entry : raw.find? d.name with
    | none => exact ⟨h.name, rfl, h.type, h.initial, .some h.scope, h.place⟩
    | some s =>
      have mem : s ∈ raw := List.mem_reverse.1 (List.mem_of_find?_eq_some entry)
      exact ⟨h.name, rfl, h.type, h.initial, .some h.scope, samePlace_move f (places s mem)⟩
  have others : (raw.map (RawSymbol.move f)).filter (fun s => !ds'.any (·.name == s.name))
      = (raw.filter fun s => !ds.any (·.name == s.name)).map (RawSymbol.move f) := by
    rw [List.filter_map]
    refine congrArg _ (List.filter_congr fun s _ => ?_)
    rw [any_name_eq alike]
    rfl
  refine List.rel_append declared ?_
  rw [others, List.map_map, List.forall₂_map_left_iff, List.forall₂_map_right_iff, List.forall₂_same]
  intro s mem
  exact ⟨rfl, rfl, rfl, rfl, .none, samePlace_move f (places s (List.mem_filter.1 mem).1)⟩

end

/-! ## Analyses -/

section
variable {source other : String} (clean : (tokenize source).errors = [])
  (clean' : (tokenize other).errors = [])
  (alike : (tokenize source).tokens.map Token.form = (tokenize other).tokens.map Token.form)
include clean clean' alike

theorem analyze_corresponds (limit : Nat) :
    (analyze source limit).Corresponds (analyze other limit) := by
  obtain ⟨f, moved⟩ := exists_move (tokenize_inOrder source) alike
  obtain ⟨g, back⟩ := exists_move (tokenize_inOrder other) alike.symm
  have inOrder := tokenize_inOrder source
  have inOrder' := tokenize_inOrder other
  have symbols := tokenize_symbols other
  rw [moved] at back inOrder' symbols
  rw [Tally.sorted_recordAll_move, ← tokenize_symbols] at symbols
  -- In turn: the faults, the variables, the tally, and the rows made of the last two.
  have faulty : List.Forall₂
      (SyntaxError.Corresponds (tokenize source).tokens ((tokenize source).tokens.map (Token.move f)))
      (parse (tokenize source).tokens limit).errors
      (parse ((tokenize source).tokens.map (Token.move f)) limit).errors := by
    rw [parse_errors, parse_errors, findings_move, faults_move, List.forall₂_map_right_iff,
      List.forall₂_same]
    exact fun e mem => ⟨rfl, samePlace_move f (position_mem_of_fault mem)⟩
  obtain ⟨declared, refused⟩ := @parse_register_move _ limit f g inOrder inOrder' back.symm
  have places : ∀ s ∈ (tokenize source).symbols, s.first ∈ (tokenize source).tokens.map (·.position) :=
    fun s mem => Tally.first_mem (tokenize_symbols source ▸ mem)
  have counted := tally_move f places
  have rows := symbolTable_move f places declared
  rw [← symbols] at counted rows
  rw [← moved] at faulty declared refused counted rows
  rw [analyze_clean clean, analyze_clean clean']
  exact ⟨alike, clean.trans clean'.symm, rfl, counted, faulty, declared, refused, rows⟩

/-- Texts without lexical errors whose tokens agree in kind and lexeme have analyses that
correspond, with or without syntax errors, and so agree in whether all is well and in their
counts. A limit below one is refused for both. -/
theorem analysis_layout (asked : Int) :
    (asked < 1 → analyzeLogged source asked = .error .belowOne ∧
      analyzeLogged other asked = .error .belowOne) ∧
    (1 ≤ asked → ∃ a b events events', analyzeLogged source asked = .ok (a, events) ∧
      analyzeLogged other asked = .ok (b, events') ∧ a.ok = b.ok ∧
      a.tokens.length = b.tokens.length ∧ a.errorCount = b.errorCount ∧
      a.symbolCount = b.symbolCount ∧ a.Corresponds b) := by
  constructor
  · intro below
    have refused : limitFor asked = .error .belowOne := if_pos below
    exact ⟨analyzeLogged_of_fault clean refused, analyzeLogged_of_fault clean' refused⟩
  · intro positive
    obtain ⟨limit, _, inForce⟩ := exists_limitFor positive
    obtain ⟨events, analyzed⟩ := analyzeLogged_of_limit clean inForce
    obtain ⟨events', analyzed'⟩ := analyzeLogged_of_limit clean' inForce
    have pair := analyze_corresponds clean clean' alike limit
    exact ⟨_, _, events, events', analyzed, analyzed', pair.ok_eq, pair.length_eq, pair.errorCount_eq,
      pair.symbolCount_eq, pair⟩

end

/-- Two layouts of a block that declares a name twice, the second time in a statement without
its end. -/
theorem a_redeclaration_in_two_layouts :
    let source := "\x7b int x = 1; int x \x7d"
    let other := "\x7b // opens\n\tint x=1;\n/* again */ int\nx\x7d"
    (tokenize source).errors = [] ∧ (tokenize other).errors = [] ∧
      (tokenize source).tokens.map Token.form = (tokenize other).tokens.map Token.form ∧
      ((0 : Int) < 1 ∧ analyzeLogged source 0 = .error .belowOne ∧ analyzeLogged other 0 = .error .belowOne) ∧
      (1 : Int) ≤ 150 ∧
      ∃ a b events events', analyzeLogged source 150 = .ok (a, events) ∧
        analyzeLogged other 150 = .ok (b, events') ∧ a.ok = b.ok ∧
        a.tokens.length = b.tokens.length ∧ a.errorCount = b.errorCount ∧
        a.symbolCount = b.symbolCount ∧ a.Corresponds b := by
  intro source other
  have clean : (tokenize source).errors = [] := by decide +kernel
  have clean' : (tokenize other).errors = [] := by decide +kernel
  have alike : (tokenize source).tokens.map Token.form = (tokenize other).tokens.map Token.form := by
    decide +kernel
  have refused := (analysis_layout clean clean' alike 0).1 (by decide)
  have analyzed := (analysis_layout clean clean' alike 150).2 (by decide)
  exact ⟨clean, clean', alike, ⟨by decide, refused⟩, by decide, analyzed⟩

end MiniC
