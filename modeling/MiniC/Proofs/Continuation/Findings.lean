/-
  MiniC.Proofs.Continuation.Findings — findings that agree up to a place.

  Positions of one class belong to the beginning of a token list. What is found where the list
  goes on stands at none of them (`Foreign`), with one exception: a variable is declared behind
  its initial value, so the value, and the end of the declaration, may lie behind the place
  where its name stands. What findings register is told by their outline, which has neither
  faults nor initial values, and in the outline of a declaration nothing stands before its name.

  Proved:
  - `Reads.stands`: what is found in a phrase stands at its tokens, or where the input ends.
  - `Alike.registered`: findings whose faults and outlines part behind the class (`Alike`)
    register the same variables up to it, initial values apart.
-/

import MiniC.Proofs.Grammar.Scoping
import MiniC.Proofs.Layout.Reading

namespace MiniC

/-! ## Where findings stand -/

/-- Does the fault, or the name declared, stand at a position of the class? -/
def Finding.StandsAt (own : Position → Prop) : Finding → Prop
  | .fault e => own e.position
  | .declared _ name _ => own name.position
  | _ => False

/-- What is found in a phrase stands at its tokens, or where the input ends. -/
theorem Reads.stands {site : Site} {p : Phrase} {ts rest : List Token} {found : List Finding}
    (h : Reads site p ts found rest) {own : Position → Prop} {x : Finding} (mem : x ∈ found)
    (stands : x.StandsAt own) : own site.finish ∨ ∃ t ∈ ts, own t.position := by
  -- Moving all positions but these moves nothing that is found.
  let all : List Token := ⟨.comment, "", site.finish⟩ :: ts
  have fixed := List.cons.inj (move_stir all)
  have finish : site.move (Position.stir all) = site :=
    congrArg (fun t : Token => { site with finish := t.position }) fixed.1
  have moved := h.move (f := Position.stir all)
  rw [finish, fixed.2] at moved
  have same : x.move (Position.stir all) = x :=
    eq_of_map_eq (moved.read_eq.1.symm.trans h.read_eq.1) x mem
  have place {q : Position} (stays : q.stir all = q) (holds : own q) :
      own site.finish ∨ ∃ t ∈ ts, own t.position := by
    obtain ⟨t, among, rfl⟩ := List.mem_map.1 (Position.mem_of_stir_eq stays)
    rcases List.mem_cons.1 among with rfl | token
    · exact .inl holds
    · exact .inr ⟨t, token, holds⟩
  cases x with
  | fault e => exact place (congrArg SyntaxError.position (Finding.fault.inj same)) stands
  | declared type name initial =>
    exact place (congrArg Token.position (Finding.declared.inj same).2.1) stands
  | _ => exact stands.elim

/-- Neither the tokens nor the end of the input stand at a position of the class. -/
def Site.Clear (own : Position → Prop) (site : Site) (ts : List Token) : Prop :=
  ¬ own site.finish ∧ ∀ t ∈ ts, ¬ own t.position

/-- Nothing that is found stands at a position of the class. -/
def Foreign (own : Position → Prop) (found : List Finding) : Prop := ∀ x ∈ found, ¬ x.StandsAt own

section
variable {own : Position → Prop} {site : Site} {ts rest : List Token} {found others : List Finding}

theorem Site.Clear.suffix (h : site.Clear own ts) (left : rest <:+ ts) : site.Clear own rest :=
  ⟨h.1, fun t mem => h.2 t (left.subset mem)⟩

namespace Foreign

theorem append (h : Foreign own found) (h' : Foreign own others) :
    Foreign own (found ++ others) := by
  intro x mem
  rcases List.mem_append.1 mem with mem | mem
  · exact h x mem
  · exact h' x mem

theorem expect (clear : site.Clear own ts) (wanted : Token → Bool) (what : Expectation) :
    Foreign own (site.expect ts wanted what) := by
  intro x mem stands
  unfold Site.expect at mem
  split at mem
  · cases mem
  · cases List.mem_singleton.1 mem
    cases ts with
    | nil => exact clear.1 stands
    | cons t r => exact clear.2 t List.mem_cons_self stands

theorem declaration (clear : ∀ t ∈ ts, ¬ own t.position) (type : Token) (initial : Option String) :
    Foreign own (Finding.declaration type ts initial) := by
  intro x mem stands
  cases ts with
  | nil => cases mem
  | cons t r =>
    rw [Finding.declaration] at mem
    split at mem
    · cases List.mem_singleton.1 mem
      exact clear t List.mem_cons_self stands
    · cases mem

end Foreign

theorem Reads.foreign {p : Phrase} (h : Reads site p ts found rest) (clear : site.Clear own ts) :
    Foreign own found := by
  intro x mem stands
  rcases h.stands mem stands with ends | ⟨t, mem, holds⟩
  · exact clear.1 ends
  · exact clear.2 t mem holds

end

/-! ## Outlines -/

/-- The finding without an initial value, unless it is a fault or a level of nesting. -/
def Finding.outline? : Finding → Option Finding
  | .declared type name _ => some (.declared type name none)
  | .opened brace => some (.opened brace)
  | .closed => some .closed
  | _ => none

/-- What the findings register, and in which blocks: the outline. -/
def outline (found : List Finding) : List Finding := found.filterMap Finding.outline?

@[simp] theorem outline_nil : outline [] = [] := rfl

@[simp] theorem outline_append (first others : List Finding) :
    outline (first ++ others) = outline first ++ outline others := by
  simp [outline, List.filterMap_append]

@[simp] theorem outline_expect (site : Site) (ts : List Token) (wanted : Token → Bool)
    (what : Expectation) : outline (site.expect ts wanted what) = [] := by
  unfold Site.expect
  split <;> rfl

@[simp] theorem outline_group (inside : List Finding) :
    outline (Finding.group inside) = outline inside := by
  simp [outline, Finding.group, Finding.outline?, List.filterMap_cons]

/-- The outline of a declaration does not show its initial value. -/
@[simp] theorem outline_declaration (type : Token) (ts : List Token) (initial : Option String) :
    outline (Finding.declaration type ts initial) = Finding.declaration type ts none := by
  cases ts with
  | nil => rfl
  | cons t r => simp only [Finding.declaration]; split <;> rfl

/-- An expression has no outline. -/
theorem Reads.outline_expression {site : Site} {p : Phrase} {ts rest : List Token}
    {found : List Finding} (h : Reads site p ts found rest) (kind : p.IsExpression) :
    outline found = [] := by
  induction h with
  | primaryDeep | primaryOther | operandsEnd | operandsNone | primaryEnd | primaryAtom => rfl
  | expressionStatement _ ih => simp [ih trivial]
  | expression _ _ ih ih' | operandsMore _ _ _ ih ih' => simp [ih trivial, ih' trivial]
  | primaryGroup _ _ _ _ ih => simp [ih trivial]
  | _ => exact kind.elim

/-! ## Lists that fork -/

/-- The lists go on in different ways behind a common front, and no member of the class stands
there. -/
def Forks {α : Type} (own : α → Prop) (xs ys : List α) : Prop :=
  ∃ front back back', xs = front ++ back ∧ ys = front ++ back' ∧
    (∀ x ∈ back, ¬ own x) ∧ ∀ y ∈ back', ¬ own y

namespace Forks

variable {α β : Type} {own : α → Prop} {xs ys zs zs' : List α}

theorem refl (xs : List α) : Forks own xs xs := ⟨xs, [], [], by simp⟩

theorem of_foreign (h : ∀ x ∈ xs, ¬ own x) (h' : ∀ y ∈ ys, ¬ own y) : Forks own xs ys :=
  ⟨[], xs, ys, rfl, rfl, h, h'⟩

theorem prepend (h : Forks own xs ys) (zs : List α) : Forks own (zs ++ xs) (zs ++ ys) := by
  obtain ⟨front, back, back', rfl, rfl, none, none'⟩ := h
  exact ⟨zs ++ front, back, back', by simp, by simp, none, none'⟩

theorem append (h : Forks own xs ys) (later : ∀ z ∈ zs, ¬ own z) (later' : ∀ z ∈ zs', ¬ own z) :
    Forks own (xs ++ zs) (ys ++ zs') := by
  obtain ⟨front, back, back', rfl, rfl, none, none'⟩ := h
  refine ⟨front, back ++ zs, back' ++ zs', by simp, by simp, ?_, ?_⟩
  · exact fun x mem => (List.mem_append.1 mem).elim (none x) (later x)
  · exact fun y mem => (List.mem_append.1 mem).elim (none' y) (later' y)

theorem filter_eq [DecidablePred own] (h : Forks own xs ys) :
    xs.filter (own ·) = ys.filter (own ·) := by
  obtain ⟨front, back, back', rfl, rfl, none, none'⟩ := h
  have gone {zs : List α} (none : ∀ z ∈ zs, ¬ own z) : zs.filter (own ·) = [] :=
    List.filter_eq_nil_iff.2 fun z mem => by simpa using none z mem
  rw [List.filter_append, List.filter_append, gone none, gone none']

end Forks

/-! ## Findings that agree up to a place -/

section
variable {own : Position → Prop} {found found' first first' others others' : List Finding}

/-- Behind a common front neither the faults nor the outlines have anything that stands at a
position of the class. -/
structure Alike (own : Position → Prop) (found found' : List Finding) : Prop where
  faults : Forks (fun e => own e.position) (faults found) (faults found')
  outline : Forks (Finding.StandsAt own) (outline found) (outline found')

theorem Foreign.faults (h : Foreign own found) : ∀ e ∈ faults found, ¬ own e.position := by
  intro e mem
  obtain ⟨x, found, picked⟩ := List.mem_filterMap.1 mem
  cases x with
  | fault e' =>
    cases picked
    exact h _ found
  | _ => cases picked

theorem Foreign.outline (h : Foreign own found) : Foreign own (outline found) := by
  intro y mem
  obtain ⟨x, found, picked⟩ := List.mem_filterMap.1 mem
  cases x with
  | declared type name initial =>
    cases picked
    exact fun stands => h _ found stands
  | opened | closed => cases picked; exact id
  | _ => cases picked

namespace Alike

theorem of_eq (faults : MiniC.faults found = MiniC.faults found')
    (outline : MiniC.outline found = MiniC.outline found') : Alike own found found' where
  faults := faults ▸ .refl _
  outline := outline ▸ .refl _

theorem of_foreign (h : Foreign own found) (h' : Foreign own found') : Alike own found found' :=
  ⟨.of_foreign h.faults h'.faults, .of_foreign h.outline h'.outline⟩

theorem prepend (h : Alike own found found') (faults : MiniC.faults first = MiniC.faults first')
    (outline : MiniC.outline first = MiniC.outline first') :
    Alike own (first ++ found) (first' ++ found') := by
  constructor
  · rw [faults_append, faults_append, faults]
    exact h.faults.prepend _
  · rw [outline_append, outline_append, outline]
    exact h.outline.prepend _

theorem append (h : Alike own found found') (later : Foreign own others)
    (later' : Foreign own others') : Alike own (found ++ others) (found' ++ others') := by
  constructor
  · rw [faults_append, faults_append]
    exact h.faults.append later.faults later'.faults
  · rw [outline_append, outline_append]
    exact h.outline.append later.outline later'.outline

/-- A declaration is the same behind anything that registers nothing. -/
theorem declare (h : Alike own found found') (none : MiniC.outline found = [])
    (none' : MiniC.outline found' = []) {type : Token} {ts ts' : List Token}
    (same : Finding.declaration type ts Option.none = Finding.declaration type ts' Option.none)
    (initial initial' : Option String) :
    Alike own (found ++ Finding.declaration type ts initial)
      (found' ++ Finding.declaration type ts' initial') := by
  constructor
  · simpa using h.faults
  · simpa [none, none', same] using Forks.refl _

end Alike

end

/-! ## What is registered -/

/-- The variable without its initial value. -/
def Variable.uninitialized (v : Variable) : Variable := { v with initial := none }

/-- The declaration without its initial value. -/
def Declaration.uninitialized (d : Declaration) : Declaration := { d with initial := none }

/-- An outline registers the same variables, without their initial values. -/
theorem registered_outline (blocks : List Block) (begun : Nat) (found : List Finding) :
    registered blocks begun (outline found)
      = (registered blocks begun found).map Variable.uninitialized := by
  induction found generalizing blocks begun with
  | nil => rfl
  | cons x found ih =>
    cases x with
    | declared type name initial => exact congrArg _ (ih blocks begun)
    | opened brace => exact ih (⟨begun, brace⟩ :: blocks) (begun + 1)
    | closed => exact ih blocks.tail begun
    | fault | descended | ascended => exact ih blocks begun

/-- What is registered last depends on what came before by the blocks that are open only. -/
theorem registered_append (blocks : List Block) (begun : Nat) (first : List Finding) :
    ∃ blocks' begun', ∀ others, registered blocks begun (first ++ others)
      = registered blocks begun first ++ registered blocks' begun' others := by
  induction first generalizing blocks begun with
  | nil => exact ⟨blocks, begun, fun _ => rfl⟩
  | cons x first ih =>
    cases x with
    | declared type name initial =>
      obtain ⟨blocks', begun', later⟩ := ih blocks begun
      exact ⟨blocks', begun', fun others => congrArg _ (later others)⟩
    | opened brace => exact ih (⟨begun, brace⟩ :: blocks) (begun + 1)
    | closed => exact ih blocks.tail begun
    | fault | descended | ascended => exact ih blocks begun

namespace Forks

variable {α β : Type} {own : α → Prop} {xs ys : List α}

theorem map (h : Forks own xs ys) (own' : β → Prop) (f : α → β) (mine : ∀ x, own' (f x) → own x) :
    Forks own' (xs.map f) (ys.map f) := by
  obtain ⟨front, back, back', rfl, rfl, none, none'⟩ := h
  refine ⟨front.map f, back.map f, back'.map f, List.map_append, List.map_append, ?_, ?_⟩
  · exact List.forall_mem_map.2 fun x mem own => none x mem (mine x own)
  · exact List.forall_mem_map.2 fun y mem own => none' y mem (mine y own)

variable {same : α → α → Prop} [DecidableRel same]

theorem firsts (h : Forks own xs ys) :
    Forks own (MiniC.firsts same [] xs) (MiniC.firsts same [] ys) := by
  obtain ⟨front, back, back', rfl, rfl, none, none'⟩ := h
  exact ⟨_, _, _, firsts_append .., firsts_append ..,
    fun x mem => none x (mem_of_mem_firsts mem), fun y mem => none' y (mem_of_mem_firsts mem)⟩

theorem repeats (h : Forks own xs ys) :
    Forks (fun x => own x.1) (MiniC.repeats same [] xs) (MiniC.repeats same [] ys) := by
  obtain ⟨front, back, back', rfl, rfl, none, none'⟩ := h
  exact ⟨_, _, _, repeats_append .., repeats_append ..,
    fun x mem => none x.1 (mem_of_mem_repeats mem).1,
    fun y mem => none' y.1 (mem_of_mem_repeats mem).1⟩

end Forks

theorem Forks.refusals {own : Position → Prop} {ds ds' : List Declaration}
    (h : Forks (fun d => own d.position) ds ds') :
    Forks (fun e : SemanticError => own e.position)
      ((MiniC.repeats Declaration.SameKey [] ds).map fun (d, e) => d.refusal e)
      ((MiniC.repeats Declaration.SameKey [] ds').map fun (d, e) => d.refusal e) :=
  h.repeats.map _ _ fun _ => id

/-- Findings that agree up to a place register the same variables up to it. -/
theorem Alike.registered {own : Position → Prop} {found found' : List Finding}
    (h : Alike own found found') :
    Forks (fun v => own v.name.position)
      ((registered [] 0 found).map Variable.uninitialized)
      ((registered [] 0 found').map Variable.uninitialized) := by
  obtain ⟨front, back, back', split, split', none, none'⟩ := h.outline
  obtain ⟨blocks, begun, later⟩ := registered_append [] 0 front
  rw [← registered_outline, ← registered_outline, split, split', later, later]
  exact ⟨_, _, _, rfl, rfl, fun v mem => none _ (mem_of_mem_registered mem),
    fun v mem => none' _ (mem_of_mem_registered mem)⟩

/-- What has been parsed without initial values. -/
theorem parse_uninitialized (ts : List Token) (limit : Nat) :
    (parse ts limit).declarations.map Declaration.uninitialized
        = firsts Declaration.SameKey []
          (((allVariables ts limit).map Variable.uninitialized).map Variable.declaration) ∧
      (parse ts limit).semanticErrors
        = (repeats Declaration.SameKey []
          (((allVariables ts limit).map Variable.uninitialized).map Variable.declaration)).map
            fun (d, e) => d.refusal e := by
  have told : ((allVariables ts limit).map Variable.uninitialized).map Variable.declaration
      = ((allVariables ts limit).map Variable.declaration).map Declaration.uninitialized := by
    simp only [List.map_map]
    rfl
  obtain ⟨kept, repeated⟩ := @firsts_repeats_map _ _ Declaration.SameKey _ Declaration.SameKey _
    Declaration.uninitialized [] ((allVariables ts limit).map Variable.declaration)
    fun _ _ _ _ => Iff.rfl
  rw [List.map_nil] at kept repeated
  obtain ⟨declared, refused⟩ := parse_register ts limit
  rw [told, kept, repeated, declared, refused, List.map_map]
  exact ⟨rfl, rfl⟩

end MiniC
