/-
  MiniC.Proofs.Walk.Registrations — which names are registered, in whatever input.

  After a fault the parser goes on one token later, and what it then takes for a declaration need
  not have been one. Still no name is registered but right behind a type, where the two stand in
  the input, and none is registered twice. Types may be lost, to a skip or to a missing name; in an
  input without faults none is.

  Proved:
  - `Walk.stand`: each variable that a walk registers stands where it passes a type and the name
    behind it, in a block whose brace stands before, and the walk comes there once.
  - `exists_stood`: so the variables of every input stand at types, in order.
  - `registrations_stand`: what is declared and what is refused share these places out between them,
    and a refusal points back to a place before.
-/

import Mathlib.Data.List.Forall2
import MiniC.Proofs.Walk

namespace MiniC

/-- At index `i` of the tokens stands a type, and right behind it a name. -/
structure TypedName (ts : List Token) (i : Nat) (type name : Token) : Prop where
  type_at : ts[i]? = some type
  isType : type.isTypeKeyword
  name_at : ts[i + 1]? = some name
  isName : name.isIdentifier

/-- The labels of the scopes that may be open at index `i`: that of the global scope, that of a block
that lacks its brace, and those of the blocks whose braces stand before. -/
inductive LabelBefore (ts : List Token) (i : Nat) : String → Prop
  | global : LabelBefore ts i "global"
  | unopened : LabelBefore ts i "block"
  | opened {j : Nat} {brace : Token} : j < i → ts[j]? = some brace → brace.isDelimiter "\x7b" →
      LabelBefore ts i s!"block@{brace.position.line}:{brace.position.column}"

/-- The variable is registered from the type and the name at index `i`. -/
structure Variable.StandsAt (clean : Prop) (ts : List Token) (i : Nat) (v : Variable) : Prop where
  typed : TypedName ts i v.type v.name
  scope : LabelBefore ts i v.scope
  value : StartsWithValue clean (ts.drop (i + 2)) v.initial

/-- The braces of the blocks stand among the tokens. -/
def BracesAmong (ts : List Token) (blocks : List Block) : Prop :=
  ∀ b ∈ blocks, ∀ brace, b.brace = some brace → brace ∈ ts ∧ brace.isDelimiter "\x7b"

theorem BracesAmong.mono {ts us : List Token} {blocks : List Block} (h : BracesAmong ts blocks)
    (more : ts ⊆ us) : BracesAmong us blocks :=
  fun b mem brace some => (h b mem brace some).imp_left fun among => more among

theorem BracesAmong.label {front : List Token} {blocks : List Block} (h : BracesAmong front blocks)
    (back : List Token) (type name : Token) (initial : Option String) :
    LabelBefore (front ++ back) front.length
      (Variable.scope ⟨blocks.head?, type, name, initial⟩) := by
  cases blocks with
  | nil => exact .global
  | cons b blocks =>
    show LabelBefore _ _ b.label
    unfold Block.label
    cases some : b.brace with
    | none => exact .unopened
    | some brace =>
      obtain ⟨among, opens⟩ := h b List.mem_cons_self brace some
      obtain ⟨j, lt, at_⟩ := List.getElem_of_mem among
      refine .opened lt ?_ opens
      rw [List.getElem?_append_left lt, List.getElem?_eq_getElem lt, at_]

theorem StartsWithValue.mono {clean clean' : Prop} {ts : List Token} {initial : Option String}
    (h : StartsWithValue clean ts initial) (fewer : clean' → clean) :
    StartsWithValue clean' ts initial := by
  cases h with
  | none other => exact .none other
  | missing sign => exact .missing sign
  | value sign some ends => exact .value sign some fun whole => ends (fewer whole)

/-- The variables stand, in order, at types among the tokens `ts`, which come behind `front`; in a
clean walk to the end of the input (`ended`) at all of them. -/
def StandAmong (clean ended : Prop) (front ts : List Token) (vs : List Variable) : Prop :=
  ∃ places : List Nat,
    places.Sublist (ts.findIdxs Token.isTypeKeyword front.length) ∧
    List.Forall₂ (Variable.StandsAt clean (front ++ ts)) places vs ∧
    (clean → ended → places = ts.findIdxs Token.isTypeKeyword front.length)

theorem StandAmong.cons {clean ended : Prop} {front r : List Token} {t : Token} {vs : List Variable}
    (h : StandAmong clean ended (front ++ [t]) r vs) (free : clean → ¬ t.isTypeKeyword) :
    StandAmong clean ended front (t :: r) vs := by
  obtain ⟨places, sub, stand, all⟩ := h
  rw [List.append_assoc, List.singleton_append] at stand
  rw [List.length_append, List.length_singleton] at sub all
  refine ⟨places, ?_, stand, fun whole ends => ?_⟩
  · rw [List.findIdxs_cons]
    split
    · exact sub.cons _
    · exact sub
  · rw [List.findIdxs_cons, if_neg (free whole)]
    exact all whole ends

/-! ## Along a walk -/

namespace Walk

variable {finish : Position} {ts rest : List Token} {found : List Finding} {n : Nat}

/-- What is left is an end of the tokens. -/
theorem rest_suffix (h : Walk finish ts found rest n) : rest <:+ ts := by
  induction h with
  | done => exact List.suffix_rfl
  | pass _ _ ih | skip _ _ ih | unnamed _ ih | opened _ _ ih => exact ih.trans (List.suffix_cons _ _)
  | overdue _ _ ih | between _ _ ih => exact ih
  | declared _ _ _ _ _ _ ih ih' =>
    exact ((ih'.trans ih).trans (List.suffix_cons _ _)).trans (List.suffix_cons _ _)

/-- Without a fault and without a declaration no type is passed. -/
theorem exists_untyped (h : Walk finish ts found rest n) (clean : faults found = [])
    (none : outline found = []) :
    ∃ used, ts = used ++ rest ∧ ∀ t ∈ used, ¬ t.isTypeKeyword := by
  induction h with
  | done => exact ⟨[], rfl, fun t mem => absurd mem List.not_mem_nil⟩
  | @pass t r _ _ _ type _ ih =>
    obtain ⟨used, rfl, untyped⟩ := ih clean none
    exact ⟨t :: used, rfl, List.forall_mem_cons.2 ⟨type, untyped⟩⟩
  | skip | unnamed | overdue => simp [Finding.error?] at clean
  | between kind _ ih =>
    cases kind with
    | unopened | closed => cases none
    | descended | ascended => exact ih clean none
  | opened => cases none
  | declared => simp [outline, Finding.outline?] at none

/-- What has no outline registers nothing. -/
theorem registered_of_outline {inside : List Finding} (none : outline inside = [])
    (blocks : List Block) (begun : Nat) (found : List Finding) :
    registered blocks begun (inside ++ found) = registered blocks begun found := by
  induction inside with
  | nil => rfl
  | cons x inside ih =>
    cases x with
    | fault | descended | ascended => exact ih none
    | declared | opened | closed => cases none

/-- Each variable that a walk registers stands at a type that the walk passes, in order. Without a
fault, and to the end of the input, these are all types. -/
theorem stand {clean : Prop} (h : Walk finish ts found rest n) (front : List Token)
    (blocks : List Block) (begun : Nat) (among : BracesAmong front blocks)
    (whole : clean → faults found = []) :
    StandAmong clean (rest = []) front ts (registered blocks begun found) := by
  induction h generalizing front blocks begun with
  | done ts => exact ⟨[], List.nil_sublist _, .nil, fun _ none => by rw [none]; rfl⟩
  | @pass t r _ _ _ type _ ih =>
    have later := ih (front ++ [t]) blocks begun (among.mono (List.subset_append_left _ _)) whole
    exact later.cons fun _ => type
  | @skip t r _ _ _ f _ ih =>
    have faulty : ¬ clean := fun h => List.cons_ne_nil _ _ (whole h)
    have later := ih (front ++ [t]) blocks begun (among.mono (List.subset_append_left _ _))
      fun h => absurd h faulty
    exact later.cons fun h => absurd h faulty
  | @unnamed t r _ _ _ _ _ ih =>
    have faulty : ¬ clean := fun h => List.cons_ne_nil _ _ (whole h)
    have later := ih (front ++ [t]) blocks begun (among.mono (List.subset_append_left _ _))
      fun h => absurd h faulty
    exact later.cons fun h => absurd h faulty
  | overdue f _ ih =>
    exact ih front blocks begun among fun h => absurd (whole h) (List.cons_ne_nil _ _)
  | between kind _ ih =>
    cases kind with
    | unopened =>
      refine ih front (⟨begun, none⟩ :: blocks) (begun + 1) ?_ whole
      exact List.forall_mem_cons.2 ⟨nofun, among⟩
    | closed => exact ih front blocks.tail begun (fun b mem => among b (List.mem_of_mem_tail mem)) whole
    | descended | ascended => exact ih front blocks begun among whole
  | @opened t r _ _ _ brace _ ih =>
    refine StandAmong.cons (ih (front ++ [t]) (⟨begun, some t⟩ :: blocks) (begun + 1) ?_ whole)
      fun _ => Token.not_isTypeKeyword_of_isDelimiter brace
    refine List.forall_mem_cons.2 ⟨?_, among.mono (List.subset_append_left _ _)⟩
    rintro _ ⟨⟩
    exact ⟨by simp, brace⟩
  | @declared type name r inside ts₁ initial found rest m n kind named none value around _ _ ih =>
    have clean_inside : clean → faults inside = [] := fun h => by
      have none := whole h
      rw [faults_append, List.append_eq_nil_iff] at none
      exact none.1
    obtain ⟨used, rfl⟩ := around.rest_suffix
    obtain ⟨places, sub, stand, all⟩ := ih (front ++ type :: name :: used) blocks begun
      (among.mono (List.subset_append_left _ _)) fun h => by
        have none := whole h
        rw [faults_append, List.append_eq_nil_iff] at none
        exact none.2
    have length : (front ++ type :: name :: used).length = front.length + 1 + 1 + used.length := by
      simp only [List.length_append, List.length_cons]
      omega
    have join : front ++ type :: name :: used ++ ts₁ = front ++ type :: name :: (used ++ ts₁) := by
      simp
    have untyped := Token.not_isTypeKeyword_of_isIdentifier named
    have at_type : (front ++ type :: name :: (used ++ ts₁))[front.length]? = some type := by simp
    have at_name : (front ++ type :: name :: (used ++ ts₁))[front.length + 1]? = some name := by simp
    rw [length] at sub all
    rw [join] at stand
    rw [registered_of_outline none]
    refine ⟨front.length :: places, ?_, .cons ?_ stand, fun h ends => ?_⟩
    · rw [List.findIdxs_cons, if_pos kind, List.findIdxs_cons, if_neg untyped, List.findIdxs_append]
      exact (sub.trans (List.sublist_append_right _ _)).cons_cons _
    · refine ⟨⟨at_type, kind, at_name, named⟩, among.label _ type name initial, ?_⟩
      have behind : (front ++ type :: name :: (used ++ ts₁)).drop (front.length + 2) = used ++ ts₁ := by
        simp
      rw [behind]
      exact value.mono clean_inside
    · obtain ⟨used', split, free⟩ := around.exists_untyped (clean_inside h) none
      cases List.append_cancel_right split
      have no : used.findIdxs Token.isTypeKeyword (front.length + 1 + 1) = [] :=
        List.findIdxs_eq_nil_iff.2 (by simpa using free)
      rw [List.findIdxs_cons, if_pos kind, List.findIdxs_cons, if_neg untyped, List.findIdxs_append, no,
        all h ends]
      rfl

end Walk

/-- The variables that a token list registers, each with the index of the type that it stands at. -/
theorem exists_stood (ts : List Token) (limit : Nat) :
    ∃ stood : List (Nat × Variable),
      stood.map Prod.snd = allVariables ts limit ∧
      (stood.map Prod.fst).Sublist (ts.findIdxs Token.isTypeKeyword) ∧
      (∀ s ∈ stood, s.2.StandsAt ((parse ts limit).errors = []) ts s.1) ∧
      ((parse ts limit).errors = [] → stood.map Prod.fst = ts.findIdxs Token.isTypeKeyword) := by
  have read := reads_read (.ofProgram ts limit) .program ts
  obtain ⟨_, walk, -⟩ := read.walks
  have clean : (parse ts limit).errors = [] → faults (findings ts limit) = [] := by
    rw [parse_errors]
    exact id
  obtain ⟨places, sub, stand, all⟩ := walk.stand [] [] 0 nofun clean
  have length : places.length = (allVariables ts limit).length := stand.length_eq
  refine ⟨places.zip (allVariables ts limit), List.map_snd_zip (Nat.le_of_eq length.symm), ?_, ?_, ?_⟩
  · rw [List.map_fst_zip (Nat.le_of_eq length)]
    exact sub
  · rintro ⟨i, v⟩ mem
    exact List.forall₂_zip stand mem
  · intro none
    rw [List.map_fst_zip (Nat.le_of_eq length)]
    exact all none read.program_rest

/-! ## What is registered -/

/-- The declaration is that of the type and the name at index `i`. -/
def Declaration.MadeAt (ts : List Token) (i : Nat) (d : Declaration) : Prop :=
  ∃ type name, TypedName ts i type name ∧ d.type = some type.lexeme ∧ d.name = name.lexeme ∧
    d.position = name.position ∧ LabelBefore ts i d.scope

/-- The error refuses the name at index `i`, and points back to one of the declarations, made at an
index before. -/
def SemanticError.RefusesAt (ts : List Token) (made : List (Nat × Declaration)) (i : Nat)
    (e : SemanticError) : Prop :=
  ∃ type name scope, TypedName ts i type name ∧ LabelBefore ts i scope ∧
    ∃ j d, (j, d) ∈ made ∧ j < i ∧ d.scope = scope ∧ d.name = name.lexeme ∧
      e = { kind := .redeclaration
            name := name.lexeme
            scope := scope
            message := s!"variable '{name.lexeme}' is already declared in scope '{scope}'"
            position := name.position
            previousLine := some d.position.line
            previousColumn := some d.position.column }

theorem Variable.StandsAt.madeAt {clean : Prop} {ts : List Token} {i : Nat} {v : Variable}
    (h : v.StandsAt clean ts i) : v.declaration.MadeAt ts i :=
  ⟨v.type, v.name, h.typed, rfl, rfl, rfl, h.scope⟩

/-- The variables have one name, in one scope. -/
def SameName (s s' : Nat × Variable) : Prop := s.2.declaration.SameKey s'.2.declaration

instance : DecidableRel SameName := fun s s' =>
  inferInstanceAs (Decidable (s.2.declaration.SameKey s'.2.declaration))

section
variable {ts : List Token} {limit : Nat} {stood : List (Nat × Variable)}

/-- What is declared and what is refused are the first of the variables and the repeats, each of which
keeps its index. -/
theorem register_of_stood (whole : stood.map Prod.snd = allVariables ts limit) :
    (parse ts limit).declarations = (firsts SameName [] stood).map (·.2.declaration) ∧
      (parse ts limit).semanticErrors
        = (repeats SameName [] stood).map fun (s, s') => s.2.declaration.refusal s'.2.declaration := by
  have listed : (allVariables ts limit).map Variable.declaration = stood.map (·.2.declaration) := by
    rw [← whole, List.map_map]
    rfl
  have kept := @firsts_repeats_map _ _ SameName _ Declaration.SameKey _ (·.2.declaration) [] stood
    fun _ _ _ _ => Iff.rfl
  rw [List.map_nil] at kept
  rw [(parse_register ts limit).1, (parse_register ts limit).2, listed, kept.1, kept.2, List.map_map]
  exact ⟨rfl, rfl⟩

/-- A repeat is refused because of a variable that stands before it. -/
theorem refusesAt_of_mem_repeats {clean : Prop} (ordered : (stood.map Prod.fst).Pairwise (· < ·))
    (stands : ∀ s ∈ stood, s.2.StandsAt clean ts s.1) {s s' : Nat × Variable}
    (mem : (s, s') ∈ repeats SameName [] stood) :
    (s.2.declaration.refusal s'.2.declaration).RefusesAt ts
      ((firsts SameName [] stood).map fun s => (s.1, s.2.declaration)) s.1 := by
  have key : SameName s s' ∧ s' ∈ firsts SameName [] stood :=
    same_of_mem_repeats (fun _ _ _ h h' => h'.trans h) mem
  have apart : List.Pairwise (fun s s' => s.1 < s'.1) ([] ++ stood) := List.pairwise_map.1 ordered
  have before := rel_of_mem_repeats apart mem
  have stand := stands s (mem_of_mem_repeats mem).1
  obtain ⟨scope, name⟩ := DeclarationKey.mk.inj key.1
  exact ⟨s.2.type, s.2.name, s.2.scope, stand.typed, stand.scope, s'.1, s'.2.declaration,
    List.mem_map_of_mem key.2, before, scope, name, rfl⟩

end

/-- In whatever input, what is declared and what is refused stand, both in order, at types with names
right behind them, one each; in an input without faults, at every type. -/
theorem registrations_stand (ts : List Token) (limit : Nat) :
    ∃ places kept refused : List Nat,
      places.Pairwise (· < ·) ∧ kept.Sublist places ∧ refused.Sublist places ∧
      (kept ++ refused).Perm places ∧
      List.Forall₂ (Declaration.MadeAt ts) kept (parse ts limit).declarations ∧
      List.Forall₂ (SemanticError.RefusesAt ts (kept.zip (parse ts limit).declarations)) refused
        (parse ts limit).semanticErrors ∧
      ((parse ts limit).errors = [] → places = ts.findIdxs Token.isTypeKeyword ∧
        (parse ts limit).declarations.length + (parse ts limit).semanticErrors.length
          = ts.countP Token.isTypeKeyword) := by
  obtain ⟨stood, whole, sub, stands, all⟩ := exists_stood ts limit
  obtain ⟨declarations, errors⟩ := register_of_stood whole
  have ordered : (stood.map Prod.fst).Pairwise (· < ·) := List.pairwise_findIdxs.sublist sub
  have repeated : ((repeats SameName [] stood).map Prod.fst).map Prod.fst
      = (repeats SameName [] stood).map fun (s, _) => s.1 :=
    List.map_map
  refine ⟨stood.map Prod.fst, (firsts SameName [] stood).map Prod.fst,
    (repeats SameName [] stood).map fun (s, _) => s.1, ordered, (firsts_sublist [] stood).map _,
    ?_, ?_, ?_, ?_, fun none => ⟨all none, ?_⟩⟩
  · rw [← repeated]
    exact (repeats_sublist [] stood).map Prod.fst
  · rw [← repeated, ← List.map_append]
    exact (firsts_append_repeats_perm [] stood).map Prod.fst
  · rw [declarations, List.forall₂_map_left_iff, List.forall₂_map_right_iff, List.forall₂_same]
    exact fun s mem => (stands s (mem_of_mem_firsts mem)).madeAt
  · rw [declarations, List.zip_map', errors, List.forall₂_map_left_iff, List.forall₂_map_right_iff,
      List.forall₂_same]
    exact fun _ mem => refusesAt_of_mem_repeats ordered stands mem
  · rw [declarations, errors, List.length_map, List.length_map, length_firsts_add_length_repeats,
      ← List.length_map Prod.fst, all none, List.length_findIdxs]

/-- A text without faults registers the name behind each of its types. Here that in the block goes
into a scope of its own, and the one after it is refused because of the first. -/
theorem every_type_of_a_text_without_faults :
    let ts := (tokenize "int x = (1); { float x; } int x;").tokens
    let first : Declaration := ⟨"x", some "int", "global", some "( 1 )", ⟨1, 5⟩⟩
    let inner : Declaration := ⟨"x", some "float", "block@1:14", none, ⟨1, 22⟩⟩
    let again : SemanticError := ⟨.redeclaration, "x", "global",
      "variable 'x' is already declared in scope 'global'", ⟨1, 31⟩, some 1, some 5⟩
    (parse ts 150).errors = [] ∧ (parse ts 150).declarations = [first, inner] ∧
      (parse ts 150).semanticErrors = [again] ∧
      ∃ places kept refused : List Nat, places = [0, 8, 12] ∧ kept.Sublist places ∧
        refused.Sublist places ∧ (kept ++ refused).Perm places ∧
        List.Forall₂ (Declaration.MadeAt ts) kept [first, inner] ∧
        List.Forall₂ (SemanticError.RefusesAt ts (kept.zip [first, inner])) refused [again] ∧
        [first, inner].length + [again].length = ts.countP Token.isTypeKeyword := by
  intro ts first inner again
  have clean : (parse ts 150).errors = [] := by decide +kernel
  have declared : (parse ts 150).declarations = [first, inner] := by decide +kernel
  have errors : (parse ts 150).semanticErrors = [again] := by decide +kernel
  obtain ⟨places, kept, refused, -, sub, sub', whole, made, refuses, all⟩ :=
    registrations_stand ts 150
  obtain ⟨types, count⟩ := all clean
  rw [declared] at made
  rw [declared, errors] at refuses count
  exact ⟨clean, declared, errors, places, kept, refused, types.trans (by decide +kernel), sub, sub',
    whole, made, refuses, count⟩

end MiniC
