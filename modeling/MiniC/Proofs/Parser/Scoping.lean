/-
  MiniC.Proofs.Parser.Scoping — which block a name is registered in.

  A parser knows the open scopes by their labels only. Here each block that is begun, whole
  or faulty, is told from all others (`Block`), and a name goes into the innermost one that
  is open (`registered`).

  Proved:
  - `parse_register`: what is declared and what is refused are the first names and the
    repeats among the variables registered, by scope label and name.
  - `Reads.braces_sublist`: the braces that open blocks are tokens of the input, in order.
  - `Variable.scope_eq_iff`: where tokens stand in order, two labels agree only within one
    block, outside of every block, or where both blocks lack their brace.
  - `refused_exactly_where_names_clash`: so these are the only names that clash. Two blocks
    that lack their brace do share a scope (`blocks_without_braces_share_a_scope`).
-/

import MiniC.Proofs.Lexer.Places
import MiniC.Proofs.Parser.Findings
import MiniC.Proofs.Parser.Reads
import MiniC.Proofs.Register

namespace MiniC

/-- A block that has been begun: how many were begun before it, and the brace that opens it,
unless that is missing. -/
structure Block where
  ordinal : Nat
  brace : Option Token
  deriving DecidableEq, Repr

/-- The label of its scope. -/
def Block.label (b : Block) : String :=
  match b.brace with
  | none => "block"
  | some t => s!"block@{t.position.line}:{t.position.column}"

theorem Block.blockLabel_eq (b : Block) : ScopeStack.blockLabel b.brace = b.label := by
  unfold ScopeStack.blockLabel Position.colon label
  cases b.brace with
  | none => rfl
  | some t => exact String.append_assoc .. |>.symm

/-- A variable as it is registered, and the innermost block that is then open, if one is. -/
structure Variable where
  block : Option Block
  type : Token
  name : Token
  initial : Option String
  deriving DecidableEq, Repr

namespace Variable

def scope (v : Variable) : String := (v.block.map Block.label).getD "global"

def declaration (v : Variable) : Declaration :=
  ⟨v.name.lexeme, some v.type.lexeme, v.scope, v.initial, v.name.position⟩

/-- The error where `v` is refused because of `previous`. -/
def refusal (v previous : Variable) : SemanticError where
  kind := .redeclaration
  name := v.name.lexeme
  scope := v.scope
  message := s!"variable '{v.name.lexeme}' is already declared in scope '{v.scope}'"
  position := v.name.position
  previousLine := some previous.name.position.line
  previousColumn := some previous.name.position.column

end Variable

/-- The variables that findings register, when `blocks` are open, the innermost first, and
`begun` blocks were begun before. -/
def registered (blocks : List Block) (begun : Nat) : List Finding → List Variable
  | [] => []
  | .opened brace :: found => registered (⟨begun, brace⟩ :: blocks) (begun + 1) found
  | .closed :: found => registered blocks.tail begun found
  | .declared type name initial :: found =>
    ⟨blocks.head?, type, name, initial⟩ :: registered blocks begun found
  | .fault _ :: found => registered blocks begun found
  | .descended :: found => registered blocks begun found
  | .ascended :: found => registered blocks begun found

/-- What is registered was declared. -/
theorem mem_of_mem_registered {blocks : List Block} {begun : Nat} {found : List Finding} {v : Variable}
    (h : v ∈ registered blocks begun found) : .declared v.type v.name v.initial ∈ found := by
  induction found generalizing blocks begun with
  | nil => exact absurd h List.not_mem_nil
  | cons x found ih =>
    cases x with
    | declared type name initial =>
      rcases List.mem_cons.1 h with rfl | h
      · exact List.mem_cons_self
      · exact List.mem_cons_of_mem _ (ih h)
    | fault | opened | closed | descended | ascended => exact List.mem_cons_of_mem _ (ih h)

/-! ## Scopes and blocks -/

/-- A parser whose open scopes are the labels of `blocks` takes into its register what the
findings register. The scopes stay the labels of the blocks that are open: that is the
invariant of the run. -/
theorem Parser.record_register {p : Parser} {blocks : List Block}
    (scopes : p.scopes = ⟨blocks.map Block.label⟩) (begun : Nat) (found : List Finding) :
    (p.record found).register
      = ((registered blocks begun found).map Variable.declaration).foldl Register.declare
          p.register := by
  induction found generalizing p blocks begun with
  | nil => rfl
  | cons x found ih =>
    rw [record_cons]
    cases x with
    | fault e => exact ih (p := p.note (.fault e)) scopes begun
    | descended => exact ih (p := p.note .descended) scopes begun
    | ascended => exact ih (p := p.note .ascended) scopes begun
    | opened brace =>
      have pushed : (p.note (.opened brace)).scopes
          = ⟨(⟨begun, brace⟩ :: blocks).map Block.label⟩ := by
        show p.scopes.push (ScopeStack.blockLabel brace) = _
        rw [scopes, Block.blockLabel_eq ⟨begun, brace⟩]
        rfl
      exact ih pushed (begun + 1)
    | closed =>
      have popped : (p.note .closed).scopes = ⟨blocks.tail.map Block.label⟩ := by
        show p.scopes.pop.2 = _
        rw [scopes]
        cases blocks <;> rfl
      have kept : (p.note .closed).register = p.register := rfl
      rw [ih popped begun, kept]
      rfl
    | declared type name initial =>
      have current : p.scopes.current = Variable.scope ⟨blocks.head?, type, name, initial⟩ := by
        rw [scopes]
        cases blocks <;> rfl
      have declared : (p.note (.declared type name initial)).register
          = p.register.declare (Variable.declaration ⟨blocks.head?, type, name, initial⟩) := by
        show p.register.declare _ = _
        rw [current]
        rfl
      have same : (p.note (.declared type name initial)).scopes = ⟨blocks.map Block.label⟩ := scopes
      rw [ih same begun, declared]
      rfl

/-- The variables that a token list registers. -/
def allVariables (tokens : List Token) (limit : Nat) : List Variable :=
  registered [] 0 (findings tokens limit)

/-- What is declared and what is refused are the first names and the repeats among the
variables that are registered. -/
theorem parse_register (tokens : List Token) (limit : Nat) :
    (parse tokens limit).declarations
        = firsts Declaration.SameKey [] ((allVariables tokens limit).map Variable.declaration) ∧
      (parse tokens limit).semanticErrors
        = (repeats Declaration.SameKey [] ((allVariables tokens limit).map Variable.declaration)).map
            fun (d, e) => d.refusal e := by
  have register := @Parser.record_register (.start tokens limit []) [] rfl 0 (findings tokens limit)
  have kept := Register.foldl_declare Register.knows_empty
    ((allVariables tokens limit).map Variable.declaration)
  rw [parse_eq_record]
  simp only [Parser.result, register]
  exact kept

/-! ## The braces of the blocks -/

def Finding.brace? : Finding → Option Token
  | .opened brace => brace
  | _ => none

/-- The braces that open the blocks among the findings. -/
def braces (found : List Finding) : List Token := found.filterMap Finding.brace?

@[simp] theorem braces_nil : braces [] = [] := rfl

@[simp] theorem braces_cons (x : Finding) (found : List Finding) :
    braces (x :: found) = x.brace?.toList ++ braces found := by
  unfold braces
  rw [List.filterMap_cons]
  cases x.brace? <;> rfl

@[simp] theorem braces_append (first others : List Finding) :
    braces (first ++ others) = braces first ++ braces others := by
  simp [braces, List.filterMap_append]

@[simp] theorem braces_block (brace : Option Token) (inside : List Finding) :
    braces (Finding.block brace inside) = brace.toList ++ braces inside := by
  simp [Finding.block, Finding.brace?]

@[simp] theorem braces_group (inside : List Finding) :
    braces (Finding.group inside) = braces inside := by
  simp [Finding.group, Finding.brace?]

@[simp] theorem braces_declaration (type : Token) (ts : List Token) (initial : Option String) :
    braces (Finding.declaration type ts initial) = [] :=
  Finding.filterMap_declaration (fun _ _ _ => rfl) type ts initial

@[simp] theorem braces_expect (site : Site) (ts : List Token) (wanted : Token → Bool)
    (what : Expectation) : braces (site.expect ts wanted what) = [] := by
  unfold Site.expect
  split <;> rfl

theorem sublist_then {as bs ts ts₁ ts₂ : List Token} (h : (as ++ ts₁).Sublist ts)
    (h' : (bs ++ ts₂).Sublist ts₁) : (as ++ bs ++ ts₂).Sublist ts := by
  rw [List.append_assoc]
  exact ((List.append_sublist_append_left as).2 h').trans h

theorem sublist_tail {as ts ts₁ : List Token} (h : (as ++ ts₁).Sublist ts) :
    (as ++ ts₁.tail).Sublist ts :=
  ((List.append_sublist_append_left as).2 (List.tail_sublist ts₁)).trans h

/-- The braces that open blocks, and the tokens that are left, stand in this order in the
input. -/
theorem Reads.braces_sublist {site : Site} {p : Phrase} {ts rest : List Token}
    {found : List Finding} (h : Reads site p ts found rest) :
    (braces found ++ rest).Sublist ts := by
  induction h with
  | programEnd | statementEnd | declarationEnd | alternativeEnd | bodyEnd | operandsEnd
  | primaryEnd => exact List.Sublist.refl []
  | statementDeep | declarationOther | primaryAtom | primaryDeep | primaryOther =>
    exact List.sublist_cons_self _ _
  | alternativeNone | bodyClose | operandsNone => exact List.Sublist.refl _
  | statementDeclaration _ _ _ ih | statementConditional _ _ _ _ ih
  | statementBlock _ _ _ _ _ ih | statementExpression _ _ _ _ _ ih => exact ih
  | alternativeConditional _ _ _ ih | alternativeBlock _ _ _ _ ih
  | alternativeStatement _ _ _ _ ih => exact ih.cons _
  | programMore _ _ ih ih' | bodyMore _ _ _ ih ih' | expression _ _ ih ih' =>
    rw [braces_append]
    exact sublist_then ih ih'
  | operandsMore _ _ _ ih ih' =>
    rw [braces_append]
    exact (sublist_then ih ih').cons _
  | @declarationInitialized site t r value ts₁ _ _ _ ih =>
    simp only [braces_append, braces_expect, braces_declaration, List.nil_append, List.append_nil]
    have left : r.tail.tail.Sublist r := (List.tail_sublist _).trans (List.tail_sublist _)
    exact ((sublist_tail ih).trans left).cons t
  | @declarationPlain site t r =>
    simp only [braces_append, braces_expect, braces_declaration, List.nil_append]
    exact ((List.tail_sublist _).trans (List.tail_sublist _)).cons t
  | @conditional site ts condition ts₁ branch ts₂ other ts₃ _ _ _ ih ih' ih'' =>
    simp only [braces_append, braces_expect, List.nil_append, List.append_nil]
    have left : ts.tail.tail.Sublist ts := (List.tail_sublist _).trans (List.tail_sublist _)
    exact (sublist_then (sublist_then (sublist_tail ih) ih') ih'').trans left
  | @block site ts body ts₁ _ ih =>
    simp only [braces_append, braces_expect, braces_block, List.nil_append, List.append_nil]
    cases ts with
    | nil => exact sublist_tail ih
    | cons t r =>
      rw [List.head?_cons, List.append_assoc]
      by_cases h : t.isDelimiter "\x7b"
      · rw [Option.filter_some, if_pos h]
        exact (sublist_tail ih).cons_cons t
      · rw [Option.filter_some, if_neg h]
        exact (sublist_tail ih).cons t
  | expressionStatement _ ih =>
    simp only [braces_append, braces_expect, List.append_nil]
    exact sublist_tail ih
  | @primaryGroup site t r inner ts₁ _ _ _ _ ih =>
    simp only [braces_group, braces_append, braces_expect, List.append_nil]
    exact (sublist_tail ih).cons t

/-! ## Blocks -/

/-- The blocks that findings begin, when `begun` were begun before. -/
def blocksOf (begun : Nat) : List Finding → List Block
  | [] => []
  | .opened brace :: found => ⟨begun, brace⟩ :: blocksOf (begun + 1) found
  | _ :: found => blocksOf begun found

theorem filterMap_blocksOf (begun : Nat) (found : List Finding) :
    (blocksOf begun found).filterMap (·.brace) = braces found := by
  induction found generalizing begun with
  | nil => rfl
  | cons x found ih =>
    rw [braces_cons]
    cases x with
    | opened brace =>
      rw [blocksOf, List.filterMap_cons, ih]
      cases brace <;> rfl
    | _ => exact ih begun

/-- A variable is registered in a block that was open or has been begun. -/
theorem mem_of_registered {blocks : List Block} {begun : Nat} {found : List Finding} {v : Variable}
    (h : v ∈ registered blocks begun found) {b : Block} (hb : v.block = some b) :
    b ∈ blocks ∨ b ∈ blocksOf begun found := by
  induction found generalizing blocks begun with
  | nil => exact absurd h List.not_mem_nil
  | cons x found ih =>
    cases x with
    | opened brace =>
      rcases ih h with mem | mem
      · rcases List.mem_cons.1 mem with rfl | mem
        · exact .inr List.mem_cons_self
        · exact .inl mem
      · exact .inr (List.mem_cons_of_mem _ mem)
    | closed =>
      rcases ih h with mem | mem
      · exact .inl (List.mem_of_mem_tail mem)
      · exact .inr mem
    | declared type name initial =>
      rcases List.mem_cons.1 h with rfl | h
      · exact .inl (List.mem_of_head? hb)
      · exact ih h
    | fault | descended | ascended => exact ih h

/-- Two blocks whose braces share a position are one block. -/
theorem eq_of_brace_eq {ts : List Token} (inOrder : InOrder ts) {limit begun : Nat} {b b' : Block}
    {t t' : Token} (mem : b ∈ blocksOf begun (findings ts limit))
    (mem' : b' ∈ blocksOf begun (findings ts limit)) (brace : b.brace = some t)
    (brace' : b'.brace = some t') (same : t.position = t'.position) : b = b' := by
  have taken : (braces (findings ts limit)).Sublist ts :=
    (List.sublist_append_left _ _).trans (reads_read _ .program _).braces_sublist
  have before := List.Pairwise.sublist taken inOrder
  rw [← filterMap_blocksOf begun, List.pairwise_filterMap] at before
  have told : ∀ b ∈ blocksOf begun (findings ts limit), ∀ b' ∈ blocksOf begun (findings ts limit),
      ∀ t, b.brace = some t → ∀ t', b'.brace = some t' → t.position = t'.position → b = b' := by
    apply List.Pairwise.forall_of_forall_of_flip
    · intros
      rfl
    · exact before.imp fun h t ht t' ht' e => absurd e (h t ht t' ht').ne
    · exact before.imp fun h t ht t' ht' e => absurd e.symm (h t' ht' t ht).ne
  exact told b mem b' mem' t brace t' brace' same

/-! ## Labels -/

namespace Block

variable {b b' : Block} {t t' : Token}

theorem label_of_none (lacks : b.brace = none) : b.label = "block" := by
  rw [label, lacks]

theorem toList_label (brace : b.brace = some t) :
    b.label.toList = "block@".toList ++ t.position.colon.toList := by
  rw [← blockLabel_eq, brace]
  exact String.toList_append

theorem label_ne_global (b : Block) : b.label ≠ "global" := by
  cases brace : b.brace with
  | none =>
    rw [label_of_none brace]
    decide
  | some t =>
    intro h
    have heads := congrArg (·.toList.head?) h
    simp only [toList_label brace] at heads
    revert heads
    show some 'b' ≠ some 'g'
    decide

/-- The label of a block without its brace is too short for one with it. -/
theorem label_ne_of_none (lacks : b.brace = none) (brace : b'.brace = some t) :
    b.label ≠ b'.label := by
  intro h
  have lengths := congrArg (·.toList.length) h
  simp only [label_of_none lacks, toList_label brace, List.length_append] at lengths
  have short : "block".toList.length = 5 := by decide
  have long : "block@".toList.length = 6 := by decide
  omega

theorem position_of_label (brace : b.brace = some t) (brace' : b'.brace = some t')
    (h : b.label = b'.label) : t.position = t'.position := by
  have lists := congrArg String.toList h
  rw [toList_label brace, toList_label brace'] at lists
  exact Position.colon_injective (String.toList_inj.1 (List.append_cancel_left lists))

/-- Two labels agree only where the blocks are one, or both lack their brace. -/
theorem label_eq_iff {ts : List Token} (inOrder : InOrder ts) {limit begun : Nat}
    (mem : b ∈ blocksOf begun (findings ts limit))
    (mem' : b' ∈ blocksOf begun (findings ts limit)) :
    b.label = b'.label ↔ b = b' ∨ b.brace.isNone ∧ b'.brace.isNone := by
  constructor
  · intro h
    cases brace : b.brace with
    | none =>
      cases brace' : b'.brace with
      | none => exact .inr ⟨rfl, rfl⟩
      | some t' => exact absurd h (label_ne_of_none brace brace')
    | some t =>
      cases brace' : b'.brace with
      | none => exact absurd h.symm (label_ne_of_none brace' brace)
      | some t' =>
        exact .inl (eq_of_brace_eq inOrder mem mem' brace brace' (position_of_label brace brace' h))
  · intro h
    rcases h with rfl | ⟨lacks, lacks'⟩
    · rfl
    · rw [label_of_none (Option.isNone_iff_eq_none.1 lacks),
        label_of_none (Option.isNone_iff_eq_none.1 lacks')]

end Block

/-! ## Clashes -/

namespace Variable

/-- Does it stand directly in a block whose brace is missing? -/
def unopened (v : Variable) : Bool := v.block.any (·.brace.isNone)

/-- The names agree, and so do the scopes: both variables stand directly in one block, or
outside of every block, or each in a block whose brace is missing. -/
def Clash (v w : Variable) : Prop :=
  v.name.lexeme = w.name.lexeme ∧ (v.block = w.block ∨ v.unopened ∧ w.unopened)

instance : DecidableRel Clash := fun _ _ => inferInstanceAs (Decidable (_ ∧ _))

theorem scope_eq_iff {ts : List Token} (inOrder : InOrder ts) {limit : Nat} {v w : Variable}
    (hv : v ∈ allVariables ts limit) (hw : w ∈ allVariables ts limit) :
    v.scope = w.scope ↔ v.block = w.block ∨ v.unopened ∧ w.unopened := by
  have known {u : Variable} (hu : u ∈ allVariables ts limit) {b : Block} (hb : u.block = some b) :
      b ∈ blocksOf 0 (findings ts limit) :=
    (mem_of_registered hu hb).resolve_left List.not_mem_nil
  unfold scope unopened
  cases hb : v.block with
  | none =>
    cases hb' : w.block with
    | none => simp
    | some b' => simp [b'.label_ne_global.symm]
  | some b =>
    cases hb' : w.block with
    | none => simp [b.label_ne_global]
    | some b' => simpa using Block.label_eq_iff inOrder (known hv hb) (known hw hb')

theorem sameKey_iff {ts : List Token} (inOrder : InOrder ts) {limit : Nat} {v w : Variable}
    (hv : v ∈ allVariables ts limit) (hw : w ∈ allVariables ts limit) :
    Declaration.SameKey v.declaration w.declaration ↔ v.Clash w := by
  have key : Declaration.SameKey v.declaration w.declaration
      ↔ w.scope = v.scope ∧ w.name.lexeme = v.name.lexeme := DeclarationKey.mk.injEq .. ▸ Iff.rfl
  unfold Clash
  rw [key, eq_comm, scope_eq_iff inOrder hv hw, and_comm, eq_comm (a := w.name.lexeme)]

end Variable

/-- What is declared are the first variables of their name and scope, and what is refused are
the others, each because of the first that it clashes with. -/
theorem parse_variables {ts : List Token} (inOrder : InOrder ts) (limit : Nat) :
    (parse ts limit).declarations
        = (firsts Variable.Clash [] (allVariables ts limit)).map Variable.declaration ∧
      (parse ts limit).semanticErrors
        = (repeats Variable.Clash [] (allVariables ts limit)).map fun (v, w) => v.refusal w := by
  have keys : ∀ v ∈ [] ++ allVariables ts limit, ∀ w ∈ [] ++ allVariables ts limit,
      Declaration.SameKey v.declaration w.declaration ↔ v.Clash w :=
    fun v hv w hw => Variable.sameKey_iff inOrder hv hw
  have kept := firsts_repeats_map keys
  rw [List.map_nil] at kept
  rw [(parse_register ts limit).1, (parse_register ts limit).2, kept.1, kept.2, List.map_map]
  exact ⟨rfl, rfl⟩

/-- A name of a text is refused exactly where a variable clashes with an earlier one, and the
error points to the first that it clashes with. -/
theorem refused_exactly_where_names_clash (source : String) (limit : Nat) :
    (parse (tokenize source).tokens limit).semanticErrors
      = (repeats Variable.Clash [] (allVariables (tokenize source).tokens limit)).map
          fun (v, w) => v.refusal w :=
  (parse_variables (tokenize_inOrder source) limit).2

/-- Two blocks, each without its brace: the second may not take the name of the first. -/
theorem blocks_without_braces_share_a_scope :
    let source := "if (a) x int y; \x7d if (a) x int y; \x7d"
    let ts := (tokenize source).tokens
    (tokenize source).errors = [] ∧
      ∃ e ∈ (parse ts 150).semanticErrors, ¬ ∃ v ∈ allVariables ts 150, ∃ w ∈ allVariables ts 150,
        e = v.refusal w ∧ v.block = w.block := by
  decide +kernel

end MiniC
