/-
  MiniC.Proofs.Continuation.Reading — what a token list goes on with does not change what is
  found in its beginning.

  Two inputs that begin alike are read in step until the first token in which they differ is
  called for. From there on both readings find things at later tokens only, and they need not
  agree any more (`InStep`).

  Proved:
  - `Reads.keepsStep`: two readings that begin alike are in step.
  - `parse_beginning`: so the faults, the refused names and the declarations that stand in the
    common beginning of two token lists are the same, initial values apart.
-/

import MiniC.Proofs.Continuation.Findings
import MiniC.Proofs.Parser.Balance

namespace MiniC

/-! ## Reading in step -/

/-- The phrase stands at the same site, but the input ends elsewhere. -/
def Site.ending (site : Site) (finish : Position) : Site := { site with finish := finish }

/-- Two readings of inputs that go on with `s` and with `s'` behind a common front. Either what
is left of both begins with what is left of the front, and they have found the same, initial
values apart; or they are past the front, and agree up to it. -/
inductive InStep (own : Position → Prop) (s s' : List Token) :
    List Finding → List Token → List Finding → List Token → Prop
  | before {found found' : List Finding} (front : List Token) : faults found = faults found' →
      outline found = outline found' → InStep own s s' found (front ++ s) found' (front ++ s')
  | past {found found' : List Finding} {rest rest' : List Token} : Alike own found found' →
      rest <:+ s → rest' <:+ s' → InStep own s s' found rest found' rest'

section
variable {own : Position → Prop} {s s' : List Token}

namespace InStep

variable {found found' : List Finding} {rest rest' : List Token}

theorem alike (h : InStep own s s' found rest found' rest') : Alike own found found' := by
  cases h with
  | before _ faults outline => exact .of_eq faults outline
  | past alike => exact alike

variable (own s s') in
theorem start (front : List Token) : InStep own s s' [] (front ++ s) [] (front ++ s') :=
  .before front rfl rfl

/-- Where one token is called for, both readings use up one. -/
theorem expect {site : Site} {finish : Position} (clear : site.Clear own s)
    (clear' : (site.ending finish).Clear own s') (h : InStep own s s' found rest found' rest')
    (wanted : Token → Bool) (what : Expectation) :
    InStep own s s' (found ++ site.expect rest wanted what) rest.tail
      (found' ++ (site.ending finish).expect rest' wanted what) rest'.tail := by
  have foreign {ts : List Token} (left : ts <:+ s) : Foreign own (site.expect ts wanted what) :=
    .expect (clear.suffix left) wanted what
  have foreign' {ts : List Token} (left : ts <:+ s') :
      Foreign own ((site.ending finish).expect ts wanted what) :=
    .expect (clear'.suffix left) wanted what
  cases h with
  | past alike left left' =>
    exact .past (alike.append (foreign left) (foreign' left'))
      ((List.tail_suffix _).trans left) ((List.tail_suffix _).trans left')
  | before front faults outline =>
    cases front with
    | nil =>
      exact .past (.append (.of_eq faults outline) (foreign List.suffix_rfl)
        (foreign' List.suffix_rfl)) (List.tail_suffix _) (List.tail_suffix _)
    | cons t front =>
      have same : site.expect (t :: front ++ s) wanted what
          = (site.ending finish).expect (t :: front ++ s') wanted what := rfl
      refine .before front ?_ ?_
      · rw [faults_append, faults_append, faults, same]
      · simp [outline]

/-- Around what is found in both readings the same is found. -/
theorem wrap (h : InStep own s s' found rest found' rest') (first others : List Finding)
    (foreign : Foreign own others) :
    InStep own s s' (first ++ found ++ others) rest (first ++ found' ++ others) rest' := by
  cases h with
  | before front faults outline => exact .before front (by simp [faults]) (by simp [outline])
  | past alike left left' => exact .past ((alike.prepend rfl rfl).append foreign foreign) left left'

theorem prepend (h : InStep own s s' found rest found' rest') (first : List Finding) :
    InStep own s s' (first ++ found) rest (first ++ found') rest' := by
  have none : Foreign own [] := fun _ mem => nomatch mem
  simpa using h.wrap first [] none

theorem group (h : InStep own s s' found rest found' rest') :
    InStep own s s' (Finding.group found) rest (Finding.group found') rest' :=
  h.wrap [.descended] [.ascended] (by simp [Foreign, Finding.StandsAt])

theorem block (h : InStep own s s' found rest found' rest') (brace : Option Token) :
    InStep own s s' (Finding.block brace found) rest (Finding.block brace found') rest' :=
  h.wrap [.opened brace, .descended] [.ascended, .closed]
    (by simp [Foreign, Finding.StandsAt])

/-- A declaration whose name both readings have passed, with values that may differ. -/
theorem declare (h : InStep own s s' found rest found' rest') (none : outline found = [])
    (none' : outline found' = []) {type : Token} {ts ts' : List Token}
    (same : Finding.declaration type ts Option.none = Finding.declaration type ts' Option.none)
    (initial initial' : Option String) :
    InStep own s s' (found ++ Finding.declaration type ts initial) rest
      (found' ++ Finding.declaration type ts' initial') rest' := by
  cases h with
  | before front faults _ => exact .before front (by simp [faults]) (by simp [none, none', same])
  | past alike left left' => exact .past (alike.declare none none' same initial initial') left left'

end InStep

/-- Reading the phrase from an input that goes on with `s'` instead of `s`, and ends elsewhere,
is in step. -/
def KeepsStep (own : Position → Prop) (s s' : List Token) (finish : Position) (site : Site)
    (p : Phrase) (ts : List Token) (found : List Finding) (rest : List Token) : Prop :=
  ∀ front, ts = front ++ s → ∃ found' rest',
    Reads (site.ending finish) p (front ++ s') found' rest' ∧ InStep own s s' found rest found' rest'

section
variable {site : Site} {finish : Position} {p : Phrase} {t : Token} {r ts rest ts₁ rest₁ : List Token}
  {found found' others : List Finding}

/-- Past the front nothing is found that stands in it. -/
theorem Reads.inStep_past (clear : site.Clear own s) (clear' : (site.ending finish).Clear own s')
    (h : Reads site p ts found rest) (left : ts <:+ s) {ts' : List Token} (left' : ts' <:+ s') :
    ∃ found' rest', Reads (site.ending finish) p ts' found' rest' ∧
      Foreign own found ∧ Foreign own found' ∧ rest <:+ s ∧ rest' <:+ s' :=
  have h' := reads_read (site.ending finish) p ts'
  ⟨_, _, h', h.foreign (clear.suffix left), h'.foreign (clear'.suffix left'),
    h.rest_suffix.trans left, h'.rest_suffix.trans left'⟩

theorem InStep.andThen (clear : site.Clear own s) (clear' : (site.ending finish).Clear own s')
    (h : InStep own s s' found ts found' rest) (read : Reads site p ts others ts₁)
    (step : KeepsStep own s s' finish site p ts others ts₁) :
    ∃ others' rest₁, Reads (site.ending finish) p rest others' rest₁ ∧
      InStep own s s' (found ++ others) ts₁ (found' ++ others') rest₁ := by
  cases h with
  | past alike left left' =>
    obtain ⟨others', rest₁, read', foreign, foreign', rest, rest'⟩ :=
      read.inStep_past clear clear' left left'
    exact ⟨others', rest₁, read', .past (alike.append foreign foreign') rest rest'⟩
  | before front faults outline =>
    obtain ⟨others', rest₁, read', inStep⟩ := step front rfl
    refine ⟨others', rest₁, read', ?_⟩
    cases inStep with
    | before front faults' outline' =>
      exact .before front (by simp [faults, faults']) (by simp [outline, outline'])
    | past alike left left' => exact .past (alike.prepend faults outline) left left'

/-- Readings of what the inputs go on with are past the front. -/
theorem Reads.keepsStep_nil (clear : site.Clear own s)
    (clear' : (site.ending finish).Clear own s') (h : Reads site p s found rest) :
    ∃ found' rest', Reads (site.ending finish) p s' found' rest' ∧
      InStep own s s' found rest found' rest' := by
  obtain ⟨found', rest', read', foreign, foreign', left, left'⟩ :=
    h.inStep_past clear clear' List.suffix_rfl List.suffix_rfl
  exact ⟨found', rest', read', .past (.of_foreign foreign foreign') left left'⟩

theorem KeepsStep.of_nil (clear : site.Clear own s) (clear' : (site.ending finish).Clear own s')
    (h : Reads site p [] found rest) : KeepsStep own s s' finish site p [] found rest := by
  intro front split
  obtain ⟨rfl, rfl⟩ := List.append_eq_nil_iff.1 split.symm
  exact h.keepsStep_nil clear clear'

/-- Where there is a token, only the fronts that it stands in are of interest. -/
theorem KeepsStep.of_cons (clear : site.Clear own s) (clear' : (site.ending finish).Clear own s')
    (h : Reads site p (t :: r) found rest)
    (step : ∀ front, r = front ++ s → ∃ found' rest',
      Reads (site.ending finish) p (t :: (front ++ s')) found' rest' ∧
        InStep own s s' found rest found' rest') :
    KeepsStep own s s' finish site p (t :: r) found rest := by
  intro front split
  cases front with
  | nil =>
    subst split
    exact h.keepsStep_nil clear clear'
  | cons u front =>
    obtain ⟨rfl, rfl⟩ := List.cons.inj split
    exact step front rfl

/-- What an alternative finds behind `else` is found in the tokens behind it. -/
theorem Reads.alternative_past (h : Reads site .alternative (t :: r) found rest)
    (word : t.isKeyword "else") (clear : site.Clear own r) : Foreign own found ∧ rest <:+ r := by
  cases h with
  | alternativeNone none => exact absurd word none
  | alternativeConditional _ _ read | alternativeBlock _ _ _ read
  | alternativeStatement _ _ _ read => exact ⟨read.foreign clear, read.rest_suffix⟩

/-- What a declaration finds behind its name registers nothing but the name. -/
theorem Reads.declaration_past (h : Reads site .declaration (t :: r) found rest)
    (type : t.isTypeKeyword) (clear : site.Clear own r.tail) :
    ∃ later initial, found = site.expect r Token.isIdentifier .identifier ++ later
        ++ Finding.declaration t r initial ∧
      Foreign own later ∧ outline later = [] ∧ rest <:+ r.tail := by
  cases h with
  | declarationOther other => exact absurd type other
  | declarationPlain =>
    exact ⟨_, _, rfl, .expect clear _ _, outline_expect .., List.tail_suffix _⟩
  | declarationInitialized _ _ value =>
    have clear' := clear.suffix (List.tail_suffix _)
    refine ⟨_, _, by rw [← List.append_assoc],
      (value.foreign clear').append (.expect (clear'.suffix value.rest_suffix) _ _), ?_, ?_⟩
    · simp [value.outline_expression trivial]
    · exact ((List.tail_suffix _).trans value.rest_suffix).trans (List.tail_suffix _)

/-- The first token behind `else` decides how an alternative is read. -/
theorem KeepsStep.alternative (clear : site.Clear own s)
    (clear' : (site.ending finish).Clear own s') (h : Reads site .alternative (t :: r) found rest)
    (word : t.isKeyword "else")
    (step : ∀ u front, r = u :: (front ++ s) → ∃ found' rest',
      Reads (site.ending finish) .alternative (t :: u :: (front ++ s')) found' rest' ∧
        InStep own s s' found rest found' rest') :
    KeepsStep own s s' finish site .alternative (t :: r) found rest := by
  refine .of_cons clear clear' h fun front split => ?_
  cases front with
  | nil =>
    subst split
    have h' := reads_read (site.ending finish) .alternative (t :: s')
    obtain ⟨foreign, left⟩ := h.alternative_past word clear
    obtain ⟨foreign', left'⟩ := h'.alternative_past word clear'
    exact ⟨_, _, h', .past (.of_foreign foreign foreign') left left'⟩
  | cons u front => exact step u front split

/-- The second token behind the type decides how a declaration is read. Where the inputs part
before it, the name is either none of the front or the same. -/
theorem KeepsStep.declaration (clear : site.Clear own s)
    (clear' : (site.ending finish).Clear own s') (h : Reads site .declaration (t :: r) found rest)
    (type : t.isTypeKeyword)
    (step : ∀ n e front, r = n :: e :: (front ++ s) → ∃ found' rest',
      Reads (site.ending finish) .declaration (t :: n :: e :: (front ++ s')) found' rest' ∧
        InStep own s s' found rest found' rest') :
    KeepsStep own s s' finish site .declaration (t :: r) found rest := by
  refine .of_cons clear clear' h fun front split => ?_
  match front with
  | [] =>
    subst split
    have h' := reads_read (site.ending finish) .declaration (t :: s')
    obtain ⟨later, initial, rfl, foreign, -, left⟩ :=
      h.declaration_past type (clear.suffix (List.tail_suffix _))
    obtain ⟨later', initial', found', foreign', -, left'⟩ :=
      h'.declaration_past type (clear'.suffix (List.tail_suffix _))
    refine ⟨_, _, h', .past (.of_foreign ?_ (found' ▸ ?_)) (left.trans (List.tail_suffix _))
      (left'.trans (List.tail_suffix _))⟩
    · exact ((Foreign.expect clear _ _).append foreign).append (.declaration clear.2 _ _)
    · exact ((Foreign.expect clear' _ _).append foreign').append (.declaration clear'.2 _ _)
  | [n] =>
    subst split
    have h' := reads_read (site.ending finish) .declaration (t :: n :: s')
    obtain ⟨later, initial, rfl, foreign, none, left⟩ := h.declaration_past type clear
    obtain ⟨later', initial', found', foreign', none', left'⟩ := h'.declaration_past type clear'
    refine ⟨_, _, h', .past (found' ▸ ?_) left left'⟩
    have behind : Alike own later later' := .of_foreign foreign foreign'
    exact (behind.prepend rfl rfl).declare (by simp [none]) (by simp [none']) rfl initial initial'
  | n :: e :: front => exact step n e front split

/-- Two readings that begin alike are in step. -/
theorem Reads.keepsStep (h : Reads site p ts found rest) (clear : site.Clear own s)
    (clear' : (site.ending finish).Clear own s') :
    KeepsStep own s s' finish site p ts found rest := by
  induction h with
  | programEnd => exact .of_nil clear clear' (.programEnd _)
  | statementEnd => exact .of_nil clear clear' (.statementEnd _)
  | declarationEnd => exact .of_nil clear clear' (.declarationEnd _)
  | alternativeEnd => exact .of_nil clear clear' (.alternativeEnd _)
  | bodyEnd => exact .of_nil clear clear' (.bodyEnd _)
  | operandsEnd => exact .of_nil clear clear' (.operandsEnd _)
  | primaryEnd => exact .of_nil clear clear' (.primaryEnd _)
  | statementDeep full =>
    refine .of_cons clear clear' (.statementDeep full) fun front split => ?_
    exact ⟨_, _, .statementDeep full, split ▸ .before front rfl rfl⟩
  | declarationOther type =>
    refine .of_cons clear clear' (.declarationOther type) fun front split => ?_
    exact ⟨_, _, .declarationOther type, split ▸ .before front rfl rfl⟩
  | primaryAtom atom =>
    refine .of_cons clear clear' (.primaryAtom atom) fun front split => ?_
    exact ⟨_, _, .primaryAtom atom, split ▸ .before front rfl rfl⟩
  | primaryDeep atom mark full =>
    refine .of_cons clear clear' (.primaryDeep atom mark full) fun front split => ?_
    exact ⟨_, _, .primaryDeep atom mark full, split ▸ .before front rfl rfl⟩
  | primaryOther atom mark =>
    refine .of_cons clear clear' (.primaryOther atom mark) fun front split => ?_
    exact ⟨_, _, .primaryOther atom mark, split ▸ .before front rfl rfl⟩
  | @alternativeNone site t r word =>
    refine .of_cons clear clear' (.alternativeNone word) fun front split => ?_
    exact ⟨_, _, .alternativeNone word, split ▸ .before (t :: front) rfl rfl⟩
  | @bodyClose site t r close =>
    refine .of_cons clear clear' (.bodyClose close) fun front split => ?_
    exact ⟨_, _, .bodyClose close, split ▸ .before (t :: front) rfl rfl⟩
  | @operandsNone site t r sign =>
    refine .of_cons clear clear' (.operandsNone sign) fun front split => ?_
    exact ⟨_, _, .operandsNone sign, split ▸ .before (t :: front) rfl rfl⟩
  | @statementDeclaration site t r found ts₁ room type read ih =>
    refine .of_cons clear clear' (.statementDeclaration room type read) fun front split => ?_
    obtain ⟨found', rest', read', inStep⟩ := ih clear clear' (t :: front) (by rw [split]; rfl)
    exact ⟨found', rest', .statementDeclaration room type read', inStep⟩
  | @statementConditional site t r found ts₁ room type word read ih =>
    refine .of_cons clear clear' (.statementConditional room type word read) fun front split => ?_
    obtain ⟨found', rest', read', inStep⟩ := ih clear clear' (t :: front) (by rw [split]; rfl)
    exact ⟨found', rest', .statementConditional room type word read', inStep⟩
  | @statementBlock site t r found ts₁ room type word brace read ih =>
    refine .of_cons clear clear' (.statementBlock room type word brace read) fun front split => ?_
    obtain ⟨found', rest', read', inStep⟩ := ih clear clear' (t :: front) (by rw [split]; rfl)
    exact ⟨found', rest', .statementBlock room type word brace read', inStep⟩
  | @statementExpression site t r found ts₁ room type word brace read ih =>
    refine .of_cons clear clear' (.statementExpression room type word brace read)
      fun front split => ?_
    obtain ⟨found', rest', read', inStep⟩ := ih clear clear' (t :: front) (by rw [split]; rfl)
    exact ⟨found', rest', .statementExpression room type word brace read', inStep⟩
  | @programMore site t r first others ts₁ ts₂ read later ih ih' =>
    refine .of_cons clear clear' (.programMore read later) fun front split => ?_
    obtain ⟨first', rest, read', inStep⟩ := ih clear clear' (t :: front) (by rw [split]; rfl)
    obtain ⟨others', rest', later', inStep'⟩ := inStep.andThen clear clear' later (ih' clear clear')
    exact ⟨_, _, .programMore read' later', inStep'⟩
  | @bodyMore site t r first others ts₁ ts₂ close read later ih ih' =>
    refine .of_cons clear clear' (.bodyMore close read later) fun front split => ?_
    obtain ⟨first', rest, read', inStep⟩ := ih clear clear' (t :: front) (by rw [split]; rfl)
    obtain ⟨others', rest', later', inStep'⟩ := inStep.andThen clear clear' later (ih' clear clear')
    exact ⟨_, _, .bodyMore close read' later', inStep'⟩
  | expression _ later ih ih' =>
    intro front split
    obtain ⟨first', rest, read', inStep⟩ := ih clear clear' front split
    obtain ⟨others', rest', later', inStep'⟩ := inStep.andThen clear clear' later (ih' clear clear')
    exact ⟨_, _, .expression read' later', inStep'⟩
  | operandsMore sign read later ih ih' =>
    refine .of_cons clear clear' (.operandsMore sign read later) fun front split => ?_
    obtain ⟨first', rest, read', inStep⟩ := ih clear clear' front split
    obtain ⟨others', rest', later', inStep'⟩ := inStep.andThen clear clear' later (ih' clear clear')
    exact ⟨_, _, .operandsMore sign read' later', inStep'⟩
  | expressionStatement _ ih =>
    intro front split
    obtain ⟨found', rest', read', inStep⟩ := ih clear clear' front split
    exact ⟨_, _, .expressionStatement read', inStep.expect clear clear' _ _⟩
  | primaryGroup atom mark room read ih =>
    refine .of_cons clear clear' (.primaryGroup atom mark room read) fun front split => ?_
    obtain ⟨inner', rest', read', inStep⟩ := ih clear clear' front split
    exact ⟨_, _, .primaryGroup atom mark room read', (inStep.expect clear clear' _ _).group⟩
  | @block site ts body ts₁ read ih =>
    intro front split
    cases front with
    | nil =>
      subst split
      exact (Reads.block read).keepsStep_nil clear clear'
    | cons t front =>
      subst split
      obtain ⟨body', rest', read', inStep⟩ := ih clear clear' front rfl
      have inside := inStep.expect clear clear' (·.isDelimiter "\x7d") .blockClose
      have whole := (inside.block ((some t).filter (·.isDelimiter "\x7b"))).prepend
        (site.expect (t :: front ++ s) (·.isDelimiter "\x7b") .blockOpen)
      have read'' : Reads (site.ending finish) .block (t :: front ++ s') _ _ := .block read'
      exact ⟨_, _, read'', whole⟩
  | @conditional site ts condition ts₁ branch ts₂ other ts₃ read read₂ read₃ ih ih' ih'' =>
    intro front split
    have begun := ((InStep.start own s s' front).expect clear clear' (·.isKeyword "if")
      .ifKeyword).expect clear clear' (·.isDelimiter "(") .conditionOpen
    rw [← split] at begun
    obtain ⟨condition', rest, read', inStep⟩ := begun.andThen clear clear' read (ih clear clear')
    obtain ⟨branch', rest', read₂', inStep⟩ :=
      (inStep.expect clear clear' (·.isDelimiter ")") .conditionClose).andThen clear clear' read₂
        (ih' clear clear')
    obtain ⟨other', rest'', read₃', inStep⟩ := inStep.andThen clear clear' read₃ (ih'' clear clear')
    exact ⟨_, _, .conditional read' read₂' read₃', inStep⟩
  | alternativeConditional word word' read ih =>
    refine .alternative clear clear' (.alternativeConditional word word' read) word
      fun u front split => ?_
    subst split
    obtain ⟨found', rest', read', inStep⟩ := ih clear clear' (u :: front) rfl
    exact ⟨_, _, .alternativeConditional word word' read', inStep⟩
  | alternativeBlock word word' brace read ih =>
    refine .alternative clear clear' (.alternativeBlock word word' brace read) word
      fun u front split => ?_
    subst split
    obtain ⟨found', rest', read', inStep⟩ := ih clear clear' (u :: front) rfl
    exact ⟨_, _, .alternativeBlock word word' brace read', inStep⟩
  | alternativeStatement word word' brace read ih =>
    refine .alternative clear clear' (.alternativeStatement word word' brace read) word
      fun u front split => ?_
    subst split
    obtain ⟨found', rest', read', inStep⟩ := ih clear clear' (u :: front) rfl
    exact ⟨_, _, .alternativeStatement word word' brace read', inStep⟩
  | @declarationPlain site t r type sign =>
    refine .declaration clear clear' (.declarationPlain type sign) type fun n e front split => ?_
    subst split
    have sign' : ¬ (n :: e :: (front ++ s')).tail.head?.any (·.isOperator "=") := by
      simpa using sign
    have heads := ((InStep.start own s s' (n :: e :: front)).expect clear clear'
      Token.isIdentifier .identifier).expect clear clear' (·.isDelimiter ";") .declarationEnd
    have name : Finding.declaration t (n :: e :: (front ++ s)) none
        = Finding.declaration t (n :: e :: (front ++ s')) none := rfl
    have whole := heads.declare (by simp) (by simp) name none none
    exact ⟨_, _, .declarationPlain type sign', whole⟩
  | @declarationInitialized site t r value ts₁ type sign read ih =>
    refine .declaration clear clear' (.declarationInitialized type sign read) type
      fun n e front split => ?_
    subst split
    have sign' : (n :: e :: (front ++ s')).tail.head?.any (·.isOperator "=") := by
      simpa using sign
    obtain ⟨value', rest', read', inStep⟩ := ih clear clear' front rfl
    have told := (inStep.prepend
      (site.expect (n :: e :: (front ++ s)) Token.isIdentifier .identifier)).expect clear clear'
        (·.isDelimiter ";") .declarationEnd
    have name : Finding.declaration t (n :: e :: (front ++ s)) none
        = Finding.declaration t (n :: e :: (front ++ s')) none := rfl
    have whole := told.declare (by simp [read.outline_expression trivial])
      (by simp [read'.outline_expression trivial]) name (lexemesBefore (front ++ s) ts₁)
      (lexemesBefore (front ++ s') rest')
    exact ⟨_, _, .declarationInitialized type sign' read', whole⟩

end

end

/-! ## The beginning of a token list -/

/-- What has been found at the tokens of `p`, initial values apart. -/
def Parsed.within (found : Parsed) (p : List Token) : Parsed where
  errors := found.errors.filter fun e => e.position ∈ p.map (·.position)
  declarations :=
    (found.declarations.filter fun d => d.position ∈ p.map (·.position)).map
      Declaration.uninitialized
  semanticErrors := found.semanticErrors.filter fun e => e.position ∈ p.map (·.position)

/-- Tokens behind `p` at other places than those of `p`, and the end of the input with them. -/
theorem clear_ofProgram {p s : List Token} (more : s ≠ [])
    (distinct : ((p ++ s).map (·.position)).Nodup) (limit : Nat) :
    (Site.ofProgram (p ++ s) limit).Clear (· ∈ p.map (·.position)) s := by
  rw [List.map_append, List.nodup_append] at distinct
  have apart : ∀ t ∈ s, t.position ∉ p.map (·.position) := fun t mem among =>
    distinct.2.2 _ among _ (List.mem_map_of_mem mem) rfl
  refine ⟨?_, apart⟩
  rw [Site.ofProgram_append p more]
  simp only [Site.ofProgram, Parser.site, Parser.start, List.getLast?_eq_some_getLast more]
  exact apart _ (List.getLast_mem more)

/-- Readings of two programs that begin alike agree up to where they part. -/
theorem findings_alike {p s s' : List Token} (more : s ≠ []) (more' : s' ≠ [])
    (distinct : ((p ++ s).map (·.position)).Nodup)
    (distinct' : ((p ++ s').map (·.position)).Nodup) (limit : Nat) :
    Alike (· ∈ p.map (·.position)) (findings (p ++ s) limit) (findings (p ++ s') limit) := by
  have clear' : ((Site.ofProgram (p ++ s) limit).ending (Site.ofProgram (p ++ s') limit).finish).Clear
      (· ∈ p.map (·.position)) s' := clear_ofProgram more' distinct' limit
  obtain ⟨found', rest', read, inStep⟩ := (reads_read (.ofProgram (p ++ s) limit) .program
    (p ++ s)).keepsStep (clear_ofProgram more distinct limit) clear' p rfl
  have same : findings (p ++ s') limit = found' := read.read_eq.1
  rw [same]
  exact inStep.alike

/-- Whatever tokens go on with, at places of their own, the faults, the refused names and the
declarations in them are the same, initial values apart. -/
theorem parse_beginning {p s s' : List Token} (more : s ≠ []) (more' : s' ≠ [])
    (distinct : ((p ++ s).map (·.position)).Nodup)
    (distinct' : ((p ++ s').map (·.position)).Nodup) (limit : Nat) :
    (parse (p ++ s) limit).within p = (parse (p ++ s') limit).within p := by
  have alike := findings_alike more more' distinct distinct' limit
  have named := alike.registered.map (fun d => d.position ∈ p.map (·.position))
    Variable.declaration fun _ => id
  obtain ⟨declared, refused⟩ := parse_uninitialized (p ++ s) limit
  obtain ⟨declared', refused'⟩ := parse_uninitialized (p ++ s') limit
  have errors : ((parse (p ++ s) limit).within p).errors
      = ((parse (p ++ s') limit).within p).errors := by
    simp only [Parsed.within, parse_errors]
    exact alike.faults.filter_eq
  have semanticErrors : ((parse (p ++ s) limit).within p).semanticErrors
      = ((parse (p ++ s') limit).within p).semanticErrors := by
    simp only [Parsed.within, refused, refused']
    exact named.refusals.filter_eq
  have declarations (found : Parsed) : (found.within p).declarations
      = (found.declarations.map Declaration.uninitialized).filter
          fun d => d.position ∈ p.map (·.position) := by
    rw [List.filter_map]
    rfl
  have kept : ((parse (p ++ s) limit).within p).declarations
      = ((parse (p ++ s') limit).within p).declarations := by
    rw [declarations, declarations, declared, declared']
    exact named.firsts.filter_eq
  exact (Parsed.mk.injEq ..).mpr ⟨errors, kept, semanticErrors⟩

/-- A line with a bad expression and a name declared twice ends within an initial value. Whatever the
next line holds, these errors stay, and so does the declaration, but for the value. -/
theorem a_value_may_go_on_in_the_next_line :
    let p := (tokenize "int a; ) ; int a; int b = 1").tokens
    let s := (tokenize "\n + 2; int").tokens
    let s' := (tokenize "\n ; else").tokens
    s ≠ [] ∧ s' ≠ [] ∧ ((p ++ s).map (·.position)).Nodup ∧ ((p ++ s').map (·.position)).Nodup ∧
      (parse (p ++ s) 150).within p = (parse (p ++ s') 150).within p ∧
      ((parse (p ++ s) 150).within p).errors = [⟨.invalidExpression ")", ⟨1, 8⟩⟩] ∧
      ((parse (p ++ s) 150).within p).semanticErrors
        = [⟨.redeclaration, "a", "global", "variable 'a' is already declared in scope 'global'",
          ⟨1, 16⟩, some 1, some 5⟩] ∧
      (parse (p ++ s) 150).declarations.map (·.initial) = [none, some "1 + 2"] ∧
      (parse (p ++ s') 150).declarations.map (·.initial) = [none, some "1"] := by
  intro p s s'
  have more : s ≠ [] := by decide +kernel
  have more' : s' ≠ [] := by decide +kernel
  have distinct : ((p ++ s).map (·.position)).Nodup := by decide +kernel
  have distinct' : ((p ++ s').map (·.position)).Nodup := by decide +kernel
  exact ⟨more, more', distinct, distinct', parse_beginning more more' distinct distinct' 150,
    by decide +kernel, by decide +kernel, by decide +kernel, by decide +kernel⟩

end MiniC
