/-
  MiniC.Proofs.SymbolTable — the symbol table is complete, and agrees with the tokens.

  Three passes meet in the table. The lexer counts the identifiers, the parser declares some of
  them, and the table joins the two by name. What keeps them together is that the parser makes
  no name up: every name that it declares is an identifier of the text, right after a type
  (`Reads.declaresIn`). So the tally has an entry for it, which was made at that identifier
  or at an earlier one.

  Proved:
  - `entry_of_declaration`: the tally has an entry for each declared name, and its first
    occurrence does not come after the declaration.
  - `symbolTable_isComplete`: the table has one row for each declaration, and one for each other
    identifier, and each counts the tokens of its name.
-/

import Mathlib.Data.List.Forall2
import MiniC.Proofs.Analysis
import MiniC.Proofs.Parser.Balance
import MiniC.Proofs.Tally

namespace MiniC

/-! ## What is declared -/

/-- Each name that is declared among the findings is an identifier of the tokens, right after its
type. -/
def DeclaresIn (ts : List Token) (found : List Finding) : Prop :=
  ∀ type name initial, .declared type name initial ∈ found →
    [type, name] <:+: ts ∧ type.isTypeKeyword ∧ name.isIdentifier

namespace DeclaresIn

variable {ts us : List Token} {first others : List Finding}

theorem of_none (none : ∀ type name initial, .declared type name initial ∉ first) :
    DeclaresIn ts first :=
  fun type name initial mem => absurd mem (none type name initial)

theorem nil : DeclaresIn ts [] := of_none fun _ _ _ => List.not_mem_nil

theorem fault (e : SyntaxError) : DeclaresIn ts [.fault e] := of_none (by simp)

theorem expect {site : Site} {wanted : Token → Bool} {what : Expectation} :
    DeclaresIn ts (site.expect us wanted what) := by
  unfold Site.expect
  split
  · exact nil
  · exact fault _

theorem append (h : DeclaresIn ts first) (h' : DeclaresIn ts others) :
    DeclaresIn ts (first ++ others) := by
  intro type name initial mem
  rcases List.mem_append.1 mem with mem | mem
  · exact h type name initial mem
  · exact h' type name initial mem

theorem block (h : DeclaresIn ts first) (brace : Option Token) :
    DeclaresIn ts (Finding.block brace first) :=
  fun type name initial mem => h type name initial (by simpa [Finding.block] using mem)

theorem group (h : DeclaresIn ts first) : DeclaresIn ts (Finding.group first) :=
  fun type name initial mem => h type name initial (by simpa [Finding.group] using mem)

/-- The tokens may be the end of more. -/
theorem mono (h : DeclaresIn us first) (suffix : us <:+ ts) : DeclaresIn ts first := by
  intro type name initial mem
  obtain ⟨inside, kinds⟩ := h type name initial mem
  exact ⟨inside.trans suffix.isInfix, kinds⟩

theorem declaration {t : Token} (type : t.isTypeKeyword) (r : List Token) (initial : Option String) :
    DeclaresIn (t :: r) (Finding.declaration t r initial) := by
  cases r with
  | nil => exact nil
  | cons n r =>
    simp only [Finding.declaration]
    by_cases name : n.isIdentifier
    · rw [if_pos name]
      intro t' n' initial' mem
      cases List.mem_singleton.1 mem
      exact ⟨⟨[], r, rfl⟩, type, name⟩
    · rw [if_neg name]
      exact nil

end DeclaresIn

/-- Every name that is declared is an identifier right after a type. -/
theorem Reads.declaresIn {site : Site} {p : Phrase} {ts rest : List Token} {found : List Finding}
    (h : Reads site p ts found rest) : DeclaresIn ts found := by
  induction h with
  | programEnd | statementEnd | alternativeEnd | alternativeNone | bodyEnd | bodyClose | operandsEnd
  | operandsNone | primaryEnd | primaryAtom => exact .nil
  | statementDeep | declarationEnd | declarationOther | primaryDeep | primaryOther => exact .fault _
  | statementDeclaration _ _ _ ih | statementConditional _ _ _ _ ih
  | statementBlock _ _ _ _ _ ih | statementExpression _ _ _ _ _ ih => exact ih
  | alternativeConditional _ _ _ ih | alternativeBlock _ _ _ _ ih
  | alternativeStatement _ _ _ _ ih => exact ih.mono (List.suffix_cons _ _)
  | programMore head _ ih ih' | bodyMore _ head _ ih ih' | expression head _ ih ih' =>
    exact ih.append (ih'.mono head.rest_suffix)
  | operandsMore _ head _ ih ih' =>
    exact (ih.append (ih'.mono head.rest_suffix)).mono (List.suffix_cons _ _)
  | @declarationInitialized site t r value ts₁ type _ _ ih =>
    have left : r.tail.tail <:+ t :: r :=
      ((List.tail_suffix _).trans (List.tail_suffix _)).trans (List.suffix_cons t r)
    exact ((DeclaresIn.expect.append (ih.mono left)).append .expect).append
      (.declaration type r _)
  | declarationPlain type =>
    exact (DeclaresIn.expect.append .expect).append (.declaration type _ _)
  | @conditional site ts _ ts₁ _ ts₂ _ _ inner branch _ ih ih' ih'' =>
    have left : ts.tail.tail <:+ ts := (List.tail_suffix _).trans (List.tail_suffix _)
    have left₁ : ts₁.tail <:+ ts := ((List.tail_suffix _).trans inner.rest_suffix).trans left
    have left₂ : ts₂ <:+ ts := branch.rest_suffix.trans left₁
    exact ((((DeclaresIn.expect.append .expect).append (ih.mono left)).append
      .expect).append (ih'.mono left₁)).append (ih''.mono left₂)
  | block _ ih =>
    exact DeclaresIn.expect.append (.block ((ih.mono (List.tail_suffix _)).append .expect) _)
  | expressionStatement _ ih => exact ih.append .expect
  | primaryGroup _ _ _ _ ih => exact .group ((ih.mono (List.suffix_cons _ _)).append .expect)

/-- Every declaration has the name and the position of an identifier. -/
theorem token_of_declaration {ts : List Token} {limit : Nat} (inOrder : InOrder ts) {d : Declaration}
    (mem : d ∈ (parse ts limit).declarations) :
    ∃ t ∈ ts, t.isIdentifier ∧ t.lexeme = d.name ∧ t.position = d.position := by
  rw [(parse_variables inOrder limit).1] at mem
  obtain ⟨v, kept, rfl⟩ := List.mem_map.1 mem
  have found := mem_of_mem_registered (mem_of_mem_firsts kept)
  obtain ⟨inside, -, identifier⟩ := (reads_read _ .program ts).declaresIn _ _ _ found
  exact ⟨v.name, inside.subset (by simp), identifier, rfl, rfl⟩

/-! ## Declarations and the tally -/

/-- No token of the name stands before the first. -/
theorem Counted.not_before {ts : List Token} {name : String} {count : Int} {first : Position}
    (h : Counted ts name count first) (inOrder : InOrder ts) {t : Token} (mem : t ∈ ts)
    (identifier : t.isIdentifier) (same : t.lexeme = name) : ¬ t.position.Before first := by
  have among : t ∈ occurrences name ts := mem_occurrences.2 ⟨mem, identifier, same⟩
  have ordered : InOrder (occurrences name ts) := inOrder.sublist List.filter_sublist
  obtain ⟨u, head, rfl⟩ := Option.map_eq_some_iff.1 h.first
  obtain ⟨later, split⟩ := List.head?_eq_some_iff.1 head
  rw [split] at among ordered
  rcases List.mem_cons.1 among with rfl | among
  · exact fun before => before.ne rfl
  · have before := (List.pairwise_cons.1 ordered).1 t among
    exact fun after => (before.trans after).ne rfl

/-- The tally of the tokens has an entry for each declared name, and its first occurrence does not
come after the declaration. -/
theorem entry_of_declaration {ts : List Token} {raw : Tally} {limit : Nat} (inOrder : InOrder ts)
    (tally : raw.Of ts) {d : Declaration} (mem : d ∈ (parse ts limit).declarations) :
    ∃ e, raw.find? d.name = some e ∧ Counted ts d.name e.count e.first ∧
      ¬ d.position.Before e.first := by
  obtain ⟨t, token, identifier, same, place⟩ := token_of_declaration inOrder mem
  obtain ⟨e, entry, named⟩ := List.mem_map.1 (tally.named t token identifier)
  have named : e.name = d.name := named.trans same
  have counted := tally.counted e entry
  rw [named] at counted
  refine ⟨e, named ▸ tally.find?_eq_some entry, counted, ?_⟩
  rw [← place]
  exact counted.not_before inOrder token identifier same

/-! ## The table -/

/-- The name is one of an identifier. -/
def Occurs (ts : List Token) (name : String) : Prop := ∃ t ∈ ts, t.isIdentifier ∧ t.lexeme = name

/-- The row is that of the declaration, with what the tally says of its name. -/
structure SymbolRow.Describes (raw : Tally) (r : SymbolRow) (d : Declaration) : Prop where
  name : r.name = d.name
  type : r.type = d.type
  scope : r.scope = some d.scope
  initial : r.initial = d.initial
  entry : ∃ e, raw.find? d.name = some e ∧ r.count = e.count ∧ r.first = e.first
  notAfter : ¬ d.position.Before r.first

/-- The table is made of a row for each declaration and of rows for the names left over, and is
complete. -/
structure Analysis.IsComplete (a : Analysis) (declared leftover : List SymbolRow) : Prop where
  rows : a.symbols = declared ++ leftover
  declared : List.Forall₂ (SymbolRow.Describes a.rawSymbols) declared a.declarations
  untyped : ∀ r ∈ leftover, r.type = none ∧ r.scope = none ∧ r.initial = none
  sorted : (leftover.map (·.name)).Pairwise Tally.Precedes
  leftover : ∀ name, name ∈ leftover.map (·.name) ↔
    Occurs a.tokens name ∧ name ∉ a.declarations.map (·.name)
  names : ∀ name, name ∈ a.symbols.map (·.name) ↔ Occurs a.tokens name
  counted : ∀ r ∈ a.symbols, Counted a.tokens r.name r.count r.first

/-- The rows of a tally whose names are not declared. -/
def leftoverRows (raw : Tally) (ds : List Declaration) : List SymbolRow :=
  (raw.filter fun e => !ds.any (·.name == e.name)).map .ofRaw

theorem mem_leftoverRows {raw : Tally} {ds : List Declaration} {r : SymbolRow} :
    r ∈ leftoverRows raw ds ↔ ∃ e ∈ raw, e.name ∉ ds.map (·.name) ∧ r = .ofRaw e := by
  unfold leftoverRows
  constructor
  · intro mem
    obtain ⟨e, kept, rfl⟩ := List.mem_map.1 mem
    obtain ⟨entry, free⟩ := List.mem_filter.1 kept
    exact ⟨e, entry, by simpa using free, rfl⟩
  · rintro ⟨e, entry, free, rfl⟩
    exact List.mem_map_of_mem (List.mem_filter.2 ⟨entry, by simpa using free⟩)

section
variable {ts : List Token} {raw : Tally} (tally : raw.Of ts)
include tally

theorem mem_leftoverRows_names (ds : List Declaration) (name : String) :
    name ∈ (leftoverRows raw ds).map (·.name) ↔ Occurs ts name ∧ name ∉ ds.map (·.name) := by
  rw [Occurs, ← tally.mem_names_iff]
  constructor
  · intro mem
    obtain ⟨r, row, rfl⟩ := List.mem_map.1 mem
    obtain ⟨e, entry, free, rfl⟩ := mem_leftoverRows.1 row
    exact ⟨List.mem_map_of_mem entry, free⟩
  · intro ⟨mem, free⟩
    obtain ⟨e, entry, rfl⟩ := List.mem_map.1 mem
    exact List.mem_map.2 ⟨.ofRaw e, mem_leftoverRows.2 ⟨e, entry, free, rfl⟩, rfl⟩

variable {limit : Nat} (inOrder : InOrder ts)
include inOrder

/-- The row of a declaration describes it, and counts the tokens of its name. -/
theorem ofDeclaration_describes {d : Declaration} (mem : d ∈ (parse ts limit).declarations) :
    SymbolRow.Describes raw (.ofDeclaration d (raw.find? d.name)) d ∧
      Counted ts d.name (SymbolRow.ofDeclaration d (raw.find? d.name)).count
        (SymbolRow.ofDeclaration d (raw.find? d.name)).first := by
  obtain ⟨e, entry, counted, notAfter⟩ := entry_of_declaration inOrder tally mem
  rw [entry]
  exact ⟨⟨rfl, rfl, rfl, rfl, ⟨e, entry, rfl, rfl⟩, notAfter⟩, counted⟩

/-- The names in the table are those of the identifiers. -/
theorem mem_symbolTable_names (name : String) :
    name ∈ (symbolTable raw (parse ts limit).declarations).map (·.name) ↔ Occurs ts name := by
  have rows : (symbolTable raw (parse ts limit).declarations).map (·.name)
      = (parse ts limit).declarations.map (·.name)
        ++ (leftoverRows raw (parse ts limit).declarations).map (·.name) := by
    simp [symbolTable, leftoverRows, SymbolRow.ofDeclaration]
  rw [rows, List.mem_append, mem_leftoverRows_names tally]
  constructor
  · rintro (mem | mem)
    · obtain ⟨d, declared, rfl⟩ := List.mem_map.1 mem
      obtain ⟨t, token, identifier, same, -⟩ := token_of_declaration inOrder declared
      exact ⟨t, token, identifier, same⟩
    · exact mem.1
  · intro occurs
    by_cases declared : name ∈ (parse ts limit).declarations.map (·.name)
    · exact .inl declared
    · exact .inr ⟨occurs, declared⟩

end

/-- The symbol table of a text without lexical errors is complete, and agrees with its tokens. -/
theorem symbolTable_isComplete {source : String} (clean : (tokenize source).errors = []) {asked : Int}
    (positive : 1 ≤ asked) :
    ∃ a log, analyzeLogged source asked = .ok (a, log) ∧
      ∃ declared leftover, a.IsComplete declared leftover := by
  obtain ⟨limit, log, analyzed⟩ := exists_analysis source positive
  have inOrder := tokenize_inOrder source
  have tally := tokenize_tally source
  have described {d : Declaration} (mem : d ∈ (parse (tokenize source).tokens limit).declarations) :=
    ofDeclaration_describes tally inOrder mem
  refine ⟨_, log, analyzed, (parse (tokenize source).tokens limit).declarations.map
      fun d => .ofDeclaration d ((tokenize source).symbols.find? d.name),
    leftoverRows (tokenize source).symbols (parse (tokenize source).tokens limit).declarations, ?_⟩
  rw [analyze_clean clean]
  refine ⟨rfl, ?_, ?_, ?_, mem_leftoverRows_names tally _,
    mem_symbolTable_names tally inOrder, ?_⟩
  · exact List.forall₂_map_left_iff.2 (List.forall₂_same.2 fun d mem => (described mem).1)
  · intro r mem
    obtain ⟨e, -, -, rfl⟩ := mem_leftoverRows.1 mem
    exact ⟨rfl, rfl, rfl⟩
  · have kept : ((leftoverRows (tokenize source).symbols
        (parse (tokenize source).tokens limit).declarations).map (·.name)).Sublist
        ((tokenize source).symbols.map (·.name)) := by
      rw [leftoverRows, List.map_map]
      exact List.filter_sublist.map _
    have strict : ((tokenize source).symbols.map (·.name)).Pairwise Tally.Precedes := by
      rw [tokenize_symbols]
      exact (Tally.Of.nil.recordAll (tokenize source).tokens).sorted_strict
    exact strict.sublist kept
  · intro r mem
    rcases List.mem_append.1 mem with mem | mem
    · obtain ⟨d, declared, rfl⟩ := List.mem_map.1 mem
      exact (described declared).2
    · obtain ⟨e, entry, -, rfl⟩ := mem_leftoverRows.1 mem
      exact tally.counted e entry

/-- A name declared in two scopes and one declared in a block that does not end have their rows, and
so have the names that are only used. -/
theorem names_that_are_only_used_have_rows :
    let source := "B = a; int b; \x7b string b = c; int x"
    (tokenize source).errors = [] ∧ (1 : Int) ≤ 150 ∧
      (analyze source 150).declarations.map (·.name) = ["b", "b", "x"] ∧
      ∃ a log, analyzeLogged source 150 = .ok (a, log) ∧
        ∃ declared leftover, a.IsComplete declared leftover := by
  intro source
  have clean : (tokenize source).errors = [] := by decide +kernel
  exact ⟨clean, by decide, by decide +kernel, symbolTable_isComplete clean (by decide)⟩

end MiniC
