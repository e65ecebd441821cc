/-
  MiniC.Proofs.Parser.Index — the index of a register, and the scan that it stands for.

  A register finds out whether a name is taken by a look into its index. A scan of the
  declarations would find out the same (`Register.scan`). The two are kept in step: the index
  has one entry for each declaration, under its scope and its name (`Register.Indexed`).

  Proved:
  - `Register.Indexed.getElem?_eq`: then a look into the index is a scan.
  - `Register.Indexed.declare`, `Parser.indexed_perform`: every declaration keeps the two in step,
    and so does everything else that can be asked of a parser.
  - `Parser.declaring_scans`: so in every state that can be reached, and in every state on the way
    through a phrase, a name is declared, or refused, as a scan finds it.
-/

import MiniC.Proofs.Parser.Operations

namespace MiniC

namespace Register

/-- The first declaration of the name in the scope, looked for one after another. -/
def scan (r : Register) (scope name : String) : Option Declaration :=
  r.declarations.find? fun d => d.scope = scope ∧ d.name = name

/-- The index has one entry for each declaration, under its key, and no two have one key. -/
structure Indexed (r : Register) : Prop where
  entries : r.index.toList.Perm (r.declarations.map fun d => (d.key, d))
  distinct : (r.declarations.map Declaration.key).Nodup

theorem Indexed.empty : Register.empty.Indexed where
  entries := List.Perm.nil
  distinct := List.nodup_nil

variable {r : Register}

theorem Indexed.getElem?_eq_some_iff (h : r.Indexed) {k : DeclarationKey} {d : Declaration} :
    r.index[k]? = some d ↔ d ∈ r.declarations ∧ d.key = k := by
  rw [← Std.TreeMap.mem_toList_iff_getElem?_eq_some, h.entries.mem_iff, List.mem_map]
  constructor
  · rintro ⟨e, mem, same⟩
    obtain ⟨rfl, rfl⟩ := Prod.mk.inj same
    exact ⟨mem, rfl⟩
  · rintro ⟨mem, rfl⟩
    exact ⟨d, mem, rfl⟩

/-- What the index knows is what a scan finds. -/
theorem Indexed.getElem?_eq (h : r.Indexed) (scope name : String) :
    r.index[(⟨scope, name⟩ : DeclarationKey)]? = r.scan scope name := by
  have found {d : Declaration} : d.key = ⟨scope, name⟩ ↔ d.scope = scope ∧ d.name = name :=
    DeclarationKey.mk.injEq .. ▸ Iff.rfl
  cases scanned : r.scan scope name with
  | none =>
    rw [scan, List.find?_eq_none] at scanned
    rw [Option.eq_none_iff_forall_ne_some]
    intro d known
    obtain ⟨mem, key⟩ := h.getElem?_eq_some_iff.1 known
    exact scanned d mem (decide_eq_true (found.1 key))
  | some d =>
    rw [scan] at scanned
    have same : d.scope = scope ∧ d.name = name := by simpa using List.find?_some scanned
    exact h.getElem?_eq_some_iff.2 ⟨List.mem_of_find?_eq_some scanned, found.2 same⟩

/-- What a declaration does, told by a scan: it is refused where its name and scope are found, with
an error that points back to where they were, and kept where they are not. -/
def declareByScan (r : Register) (d : Declaration) : Register :=
  match r.scan d.scope d.name with
  | some previous =>
    let refusal : SemanticError :=
      { kind := .redeclaration
        name := d.name
        scope := d.scope
        message := s!"variable '{d.name}' is already declared in scope '{d.scope}'"
        position := d.position
        previousLine := some previous.position.line
        previousColumn := some previous.position.column }
    { r with errors := r.errors ++ [refusal] }
  | none => { r with declarations := r.declarations ++ [d], index := r.index.insert ⟨d.scope, d.name⟩ d }

theorem Indexed.declare_eq (h : r.Indexed) (d : Declaration) : r.declare d = r.declareByScan d := by
  rw [declareByScan, ← h.getElem?_eq]
  rfl

theorem Indexed.declare (h : r.Indexed) (d : Declaration) : (r.declare d).Indexed := by
  cases known : r.index[d.key]? with
  | some previous =>
    have same : (r.declare d).declarations = r.declarations ∧ (r.declare d).index = r.index := by
      rw [Register.declare, known]
      exact ⟨rfl, rfl⟩
    constructor
    · rw [same.1, same.2]
      exact h.entries
    · rw [same.1]
      exact h.distinct
  | none =>
    have new : (r.declare d).declarations = r.declarations ++ [d] ∧
        (r.declare d).index = r.index.insert d.key d := by
      rw [Register.declare, known]
      exact ⟨rfl, rfl⟩
    have free : ∀ e ∈ r.declarations, e.key ≠ d.key := by
      intro e mem same
      rw [h.getElem?_eq_some_iff.2 ⟨mem, same⟩] at known
      cases known
    constructor
    · -- No entry has the new key, so inserting it leaves all of them.
      have others : r.index.toList.filter (fun x => decide ¬(d.key == x.1) = true) = r.index.toList := by
        rw [List.filter_eq_self]
        intro entry among
        obtain ⟨e, mem, rfl⟩ := List.mem_map.1 (h.entries.mem_iff.1 among)
        simpa using (free e mem).symm
      have inserted := Std.TreeMap.toList_insert_perm (t := r.index) (k := d.key) (v := d)
      rw [others] at inserted
      rw [new.1, new.2, List.map_append]
      exact inserted.trans ((h.entries.cons _).trans (List.perm_append_singleton _ _).symm)
    · rw [new.1, List.map_append, List.nodup_append]
      refine ⟨h.distinct, List.pairwise_singleton _ d.key, fun k taken k' other => ?_⟩
      obtain ⟨e, mem, rfl⟩ := List.mem_map.1 taken
      rw [List.map_singleton, List.mem_singleton] at other
      exact other ▸ free e mem

end Register

namespace Parser

variable {p : Parser}

/-! ## The index stays in step -/

theorem indexed_note (h : p.register.Indexed) (x : Finding) : (p.note x).register.Indexed := by
  cases x with
  | declared type name initial => exact h.declare _
  | fault | opened | closed | descended | ascended => exact h

theorem indexed_states (h : p.register.Indexed) (found : List Finding) :
    ∀ s ∈ p.states found, s.register.Indexed := by
  induction found generalizing p with
  | nil =>
    intro s mem
    rw [states, List.mem_singleton] at mem
    exact mem ▸ h
  | cons x found ih =>
    intro s mem
    rcases List.mem_cons.1 mem with rfl | mem
    · exact h
    · exact ih (indexed_note h x) s mem

theorem indexed_record (h : p.register.Indexed) (found : List Finding) :
    (p.record found).register.Indexed := by
  induction found generalizing p with
  | nil => exact h
  | cons x found ih => exact ih (indexed_note h x)

theorem register_advance (p : Parser) : p.advance.2.register = p.register := by
  unfold Parser.advance
  split <;> rfl

theorem register_consume (p : Parser) (wanted : Token → Bool) (f : SyntaxFault) :
    (p.consume wanted f).2.register = p.register := by
  unfold consume
  split
  · rfl
  · split
    · exact register_advance p
    · exact register_advance _

theorem register_tooDeep (p : Parser) (token : Token) : (p.tooDeep token).2.register = p.register := by
  unfold tooDeep
  split
  · rfl
  · exact register_advance _

/-- Whatever is asked of a parser, the index stays in step with the declarations. -/
theorem indexed_perform (h : p.register.Indexed) (o : Operation) :
    (p.perform o).register.Indexed := by
  cases o with
  | advance => exact (register_advance p).symm ▸ h
  | consumeDelimiter | consumeKeyword | consumeIdentifier => exact (register_consume p _ _).symm ▸ h
  | tooDeep token => exact (register_tooDeep p token).symm ▸ h
  | declare name type initial => exact h.declare _
  | addFault | pushScope | popScope => exact h
  | read phrase => exact indexed_record h _
  | parse => exact indexed_record h _

theorem Reachable.indexed {tokens : List Token} {asked : Int} (h : Reachable tokens asked p) :
    p.register.Indexed := by
  induction h with
  | start made =>
    cases asks : limitFor asked with
    | error => simp [ofTokens, asks, Except.map] at made
    | ok given =>
      simp only [ofTokens, asks, Except.map, Except.ok.injEq] at made
      rw [← made]
      exact .empty
  | perform o _ ih => exact indexed_perform ih o

/-! ## Declaring -/

/-- In every state that can be reached, and in every state on the way through a phrase from there,
the index has one entry for each declaration, and any name is declared in the innermost scope, or the
global one, as a scan finds it. -/
theorem declaring_scans {tokens : List Token} {asked : Int} (reached : Reachable tokens asked p)
    (phrase : Phrase) :
    ∀ s ∈ p.states (phrase.read p.site p.rest).found, s.register.Indexed ∧
      ∀ (name : Token) (type : String) (initial : Option String),
        let scope := s.scopes.inner.headD "global"
        let d : Declaration := ⟨name.lexeme, some type, scope, initial, name.position⟩
        s.declare name type initial = { s with register := s.register.declareByScan d } := by
  intro s mem
  have indexed := indexed_states reached.indexed _ s mem
  refine ⟨indexed, fun name type initial => ?_⟩
  intro scope d
  rw [← indexed.declare_eq]
  rfl

theorem self_mem_states (p : Parser) (found : List Finding) : p ∈ p.states found := by
  cases found <;> simp [states]

/-- A scope that is opened again under its label still has the names that it had: here `x`, which
was declared in it before it was closed. -/
theorem a_scope_opened_again_has_its_names :
    let x : Token := ⟨.identifier, "x", ⟨1, 5⟩⟩
    let again : Token := ⟨.identifier, "x", ⟨2, 7⟩⟩
    let opened := ((start [] 1 []).perform (.pushScope "block")).perform (.declare x "int" none)
    let p := (opened.perform .popScope).perform (.pushScope "block")
    Reachable [] 1 p ∧ p.register.Indexed ∧ p.register.declarations.length = 1 ∧
      (p.declare again "float" (some "1")).register.declarations = p.register.declarations ∧
      (p.declare again "float" (some "1")).register.errors
        = [⟨.redeclaration, "x", "block", "variable 'x' is already declared in scope 'block'", ⟨2, 7⟩,
          some 1, some 5⟩] := by
  intro x again opened p
  have reached : Reachable [] 1 p := .perform _ (.perform _ (.perform _ (.perform _ (.start rfl))))
  obtain ⟨indexed, scans⟩ := declaring_scans reached .program p (p.self_mem_states _)
  refine ⟨reached, indexed, by decide +kernel, ?_, ?_⟩
  · rw [scans]
    decide +kernel
  · rw [scans]
    decide +kernel

end Parser

end MiniC
