/-
  MiniC.Proofs.Walk — reading, told token by token.

  The rules of reading follow the phrases of the grammar. What they do to the tokens is simpler:
  each token is passed, or skipped with a fault, or opens a block, or is the type of a declaration
  whose name comes next; and where no token is left, a fault is noted at the end (`Walk`). What
  does not depend on the phrases is proved by induction on these steps, of which there are few.

  A walk counts the faults that are noted at the end of the input. Each of them is owed by a phrase
  that has been begun: a block owes its closing brace, a parenthesis its own, a conditional its
  condition and its block. How many that can be follows from the room that is left for further
  levels (`Phrase.owed`).

  Proved:
  - `Reads.walks`: whatever is read is a walk, with no more faults at the end than are owed.
-/

import MiniC.Proofs.Continuation.Findings
import MiniC.Proofs.Parser.Balance

namespace MiniC

theorem Token.not_isTypeKeyword_of_isAnyOperator {t : Token} (h : t.isAnyOperator) :
    ¬ t.isTypeKeyword := by
  intro type
  rw [isAnyOperator, (isTypeKeyword_iff.1 type).1] at h
  exact absurd h (by decide)

theorem Token.not_isTypeKeyword_of_isIdentifier {t : Token} (h : t.isIdentifier) :
    ¬ t.isTypeKeyword :=
  not_isTypeKeyword_of_startsExpression (by rw [startsExpression, h, Bool.true_or, Bool.true_or])

theorem Token.isAnyOperator_of_isOperator {t : Token} {sign : String} (h : t.isOperator sign) :
    t.isAnyOperator :=
  (Bool.and_eq_true_iff.1 h).1

/-! ## Initial values -/

/-- The tokens `ts` behind the name of a declaration begin with this initial value. If the declaration
is `clean` of faults, its end comes right behind the value, and no other semicolon before that. -/
inductive StartsWithValue (clean : Prop) : (ts : List Token) → (initial : Option String) → Prop
  | none {ts} : ¬ ts.head?.any (·.isOperator "=") → StartsWithValue clean ts none
  | missing {sign} : sign.isOperator "=" → StartsWithValue clean [sign] none
  | value {sign value rest} : sign.isOperator "=" → value ≠ [] →
      (clean → (∀ t ∈ value, ¬ t.isDelimiter ";") ∧ rest.head?.any (·.isDelimiter ";")) →
      StartsWithValue clean (sign :: (value ++ rest)) (some (spaced value))

/-- No semicolon stands in an expression. -/
theorem SyntaxTree.not_semicolon {p : Phrase} (tree : SyntaxTree p) (kind : p.IsExpression)
    (unended : p ≠ .expressionStatement) : ∀ t ∈ tree.tokens, ¬ t.isDelimiter ";" := by
  have other {t : Token} {mark : String} (h : t.isDelimiter mark) (ne : mark ≠ ";") :
      ¬ t.isDelimiter ";" := by
    intro semicolon
    exact ne ((Token.isDelimiter_iff.1 h).2.symm.trans (Token.isDelimiter_iff.1 semicolon).2)
  induction tree with
  | expressionStatement => exact absurd rfl unended
  | expression first others ih ih' =>
    intro t mem
    rcases List.mem_append.1 mem with mem | mem
    · exact ih trivial nofun t mem
    · exact ih' trivial nofun t mem
  | noOperand => exact fun t mem => absurd mem List.not_mem_nil
  | operands sign first others ih ih' =>
    intro t mem
    rcases List.mem_cons.1 mem with rfl | mem
    · exact fun semicolon => Token.not_isAnyOperator_of_isDelimiter semicolon sign.property
    rcases List.mem_append.1 mem with mem | mem
    · exact ih trivial nofun t mem
    · exact ih' trivial nofun t mem
  | atom a =>
    intro t mem
    cases List.mem_singleton.1 mem
    exact fun semicolon => Token.not_isAtom_of_isDelimiter semicolon a.property
  | group left inner right ih =>
    intro t mem
    rcases List.mem_cons.1 mem with rfl | mem
    · exact other left.property (by decide)
    rcases List.mem_append.1 mem with mem | mem
    · exact ih trivial nofun t mem
    · cases List.mem_singleton.1 mem
      exact other right.property (by decide)
  | _ => exact kind.elim

/-- What is read behind the sign of a declaration is its initial value. -/
theorem Reads.startsWithValue {site : Site} {sign : Token} {ts rest : List Token}
    {value : List Finding} (equals : sign.isOperator "=") (h : Reads site .expression ts value rest) :
    StartsWithValue (faults (value ++ site.expect rest (·.isDelimiter ";") .declarationEnd) = [])
      (sign :: ts) (lexemesBefore ts rest) := by
  obtain ⟨used, rfl⟩ := h.rest_suffix
  by_cases none : used = []
  · -- An expression uses a token up, if there is one.
    have last : used ++ rest = [] := by
      have due := (Phrase.expression.read site (used ++ rest)).used
      rw [h.read_eq.2, List.length_append, none] at due
      cases rest with
      | nil => simp [none]
      | cons t r => simp [Phrase.due] at due
    rw [last, (List.append_eq_nil_iff.1 last).2]
    exact .missing equals
  · rw [lexemesBefore_append none]
    refine .value equals none fun clean => ?_
    rw [faults_append, List.append_eq_nil_iff, faults_expect_eq_nil] at clean
    obtain ⟨clean, ends⟩ := clean
    obtain ⟨t, r, more, -⟩ := exists_cons_of_head?_any ends
    obtain ⟨tree, split, -⟩ := (h.tree_or_cut trivial clean).resolve_right fun cut => by
      rw [more] at cut
      cases cut.1
    exact ⟨List.append_cancel_right split ▸ tree.not_semicolon trivial nofun, ends⟩

/-! ## Walks -/

/-- The findings that are noted between two tokens, but for faults and declarations. -/
inductive Finding.IsBetween : Finding → Prop
  | unopened : IsBetween (.opened none)
  | closed : IsBetween .closed
  | descended : IsBetween .descended
  | ascended : IsBetween .ascended

/-- `Walk finish ts found rest n`: going over the tokens from `ts` to `rest`, `found` is noted, and `n`
faults of these where no token was left. -/
inductive Walk (finish : Position) : List Token → List Finding → List Token → Nat → Prop
  | done (ts : List Token) : Walk finish ts [] ts 0
  | pass {t r found rest n} : ¬ t.isTypeKeyword → Walk finish r found rest n →
      Walk finish (t :: r) found rest n
  /-- The token is not what is called for. -/
  | skip {t r found rest n} (f : SyntaxFault) : Walk finish r found rest n →
      Walk finish (t :: r) (.fault ⟨f, t.position⟩ :: found) rest n
  /-- A type is passed, and a fault is noted in place of a name. -/
  | unnamed {t r e found rest n} : Walk finish r (.fault e :: found) rest n →
      Walk finish (t :: r) (.fault e :: found) rest n
  | overdue {found rest n} (f : SyntaxFault) : Walk finish [] found rest n →
      Walk finish [] (.fault ⟨f, finish⟩ :: found) rest (n + 1)
  | between {x ts found rest n} : x.IsBetween → Walk finish ts found rest n →
      Walk finish ts (x :: found) rest n
  | opened {t r found rest n} : t.isDelimiter "\x7b" → Walk finish r found rest n →
      Walk finish (t :: r) (.opened (some t) :: found) rest n
  /-- A type and a name are passed, then what belongs to the declaration, and it is noted. -/
  | declared {type name r inside ts₁ initial found rest m n} : type.isTypeKeyword →
      name.isIdentifier → outline inside = [] → StartsWithValue (faults inside = []) r initial →
      Walk finish r inside ts₁ m → Walk finish ts₁ found rest n →
      Walk finish (type :: name :: r) (inside ++ .declared type name initial :: found) rest (m + n)

namespace Walk

variable {finish : Position} {ts ts₁ rest : List Token} {found others : List Finding} {m n : Nat}

theorem append (h : Walk finish ts found ts₁ m) (h' : Walk finish ts₁ others rest n) :
    Walk finish ts (found ++ others) rest (m + n) := by
  induction h with
  | done => rw [Nat.zero_add]; exact h'
  | pass type _ ih => exact .pass type (ih h')
  | skip f _ ih => exact .skip f (ih h')
  | unnamed _ ih => exact .unnamed (ih h')
  | overdue f _ ih => rw [Nat.add_right_comm]; exact .overdue f (ih h')
  | between kind _ ih => exact .between kind (ih h')
  | opened brace _ ih => exact .opened brace (ih h')
  | declared type name none value inside _ _ ih =>
    rw [List.append_assoc, List.cons_append, Nat.add_assoc]
    exact .declared type name none value inside (ih h')

/-- Where no token is left, or a fault has been noted because of that, none is left afterwards. -/
theorem rest_eq_nil (h : Walk finish ts found rest n) (ends : ts = [] ∨ 0 < n) : rest = [] := by
  induction h with
  | done => simpa using ends
  | pass _ _ ih | skip _ _ ih | unnamed _ ih | opened _ _ ih =>
    exact ih (.inr (ends.resolve_left (List.cons_ne_nil _ _)))
  | overdue _ _ ih => exact ih (.inl rfl)
  | between _ _ ih => exact ih ends
  | @declared _ _ _ _ _ _ _ _ m n _ _ _ _ _ _ ih ih' =>
    have some : 0 < m + n := ends.resolve_left (List.cons_ne_nil _ _)
    by_cases first : 0 < m
    · exact ih' (.inl (ih (.inr first)))
    · exact ih' (.inr (by omega))

theorem length_rest (h : Walk finish ts found rest n) (ends : ts.length = 0 ∨ 0 < n) :
    rest.length = 0 :=
  List.length_eq_zero_iff.2 (h.rest_eq_nil (ends.imp_left List.length_eq_zero_iff.1))

/-- What the grammar calls for is passed, or skipped with a fault, or its fault is noted at the end.
No type is ever called for here. -/
theorem expect {site : Site} {wanted : Token → Bool} (apart : ∀ t, wanted t → ¬ t.isTypeKeyword)
    (ts : List Token) (what : Expectation) :
    Walk site.finish ts (site.expect ts wanted what) ts.tail (1 - ts.length) := by
  cases ts with
  | nil => exact .overdue _ (.done [])
  | cons t r =>
    have none : 1 - (t :: r).length = 0 := by simp
    rw [none]
    unfold Site.expect
    by_cases fits : wanted t
    · rw [if_pos (show (t :: r).head?.any wanted from fits)]
      exact .pass (apart t fits) (.done r)
    · rw [if_neg (show ¬ (t :: r).head?.any wanted from fits)]
      exact .skip _ (.done r)

theorem expect_delimiter (site : Site) (mark : String) (ts : List Token) (what : Expectation) :
    Walk site.finish ts (site.expect ts (·.isDelimiter mark) what) ts.tail (1 - ts.length) :=
  expect (fun _ => Token.not_isTypeKeyword_of_isDelimiter) ts what

/-- A finding between two tokens may also come last. -/
theorem concat {x : Finding} (h : Walk finish ts found rest n) (kind : x.IsBetween) :
    Walk finish ts (found ++ [x]) rest n :=
  h.append (.between kind (.done rest))

theorem group (h : Walk finish ts found rest n) : Walk finish ts (Finding.group found) rest n :=
  .between .descended (h.concat .ascended)

/-- The brace of a block opens it, or is missing. -/
theorem block {site : Site} (h : Walk site.finish ts.tail found rest n) :
    Walk site.finish ts
      (site.expect ts (·.isDelimiter "\x7b") .blockOpen
        ++ Finding.block (ts.head?.filter (·.isDelimiter "\x7b")) found) rest (1 - ts.length + n) := by
  have inside : Walk site.finish ts.tail (.descended :: (found ++ [.ascended, .closed])) rest n :=
    .between .descended (h.append (.between .ascended (.between .closed (.done rest))))
  cases ts with
  | nil => exact (expect_delimiter site "\x7b" [] _).append (.between .unopened inside)
  | cons t r =>
    by_cases brace : t.isDelimiter "\x7b"
    · have none : 1 - (t :: r).length + n = n := by simp
      rw [Reads.expect_cons brace, List.head?_cons, Option.filter_some, if_pos brace, none]
      exact .opened brace inside
    · rw [List.head?_cons, Option.filter_some, if_neg brace]
      exact (expect_delimiter site "\x7b" (t :: r) _).append (.between .unopened inside)

/-- A declaration is noted behind all that belongs to it, if it has a name. -/
theorem declaration {site : Site} {type : Token} {r : List Token} {initial : Option String}
    (kind : type.isTypeKeyword) (none : outline found = [])
    (value : StartsWithValue (faults found = []) r.tail initial)
    (h : Walk site.finish r.tail found rest n) :
    Walk site.finish (type :: r)
      (site.expect r Token.isIdentifier .identifier ++ found
        ++ Finding.declaration type r initial) rest (1 - r.length + n) := by
  cases r with
  | nil =>
    have nameless : Walk site.finish [type] (site.expect [] Token.isIdentifier .identifier ++ found)
        rest (n + 1) := .unnamed (.overdue _ h)
    simpa [Finding.declaration, Nat.add_comm] using nameless
  | cons name r =>
    have count : 1 - (name :: r).length + n = n + 0 := by simp
    rw [count]
    by_cases named : name.isIdentifier
    · rw [Reads.expect_cons named, Finding.declaration, if_pos named]
      exact .declared kind named none value h (.done rest)
    · have skipped : site.expect (name :: r) Token.isIdentifier .identifier
          = [.fault ⟨.expected .identifier, name.position⟩] :=
        if_neg named
      rw [skipped, Finding.declaration, if_neg named, List.append_nil]
      exact .unnamed (.skip _ h)

end Walk

/-! ## What is owed at the end of the input -/

namespace Phrase

/-- How many faults are noted in the phrase where the input has ended before it. -/
def missed : Phrase → Nat
  | .declaration => 1
  | .conditional => 5
  | .block => 2
  | .expressionStatement => 1
  | _ => 0

/-- How many faults may be noted in the phrase where the input ends within it, by the room that there
is for further levels. -/
def owed (room : Nat) : Phrase → Nat
  | .program | .statement | .blockBody => room + 3 * min room 1
  | .conditional | .alternative => max 4 (room + 3)
  | .block => max 1 (room + 3 * min (room - 1) 1)
  | .declaration => max 2 (room + 1)
  | .expressionStatement => room + 1
  | .expression | .operands | .primary => room

end Phrase

/-- Reading the phrase is a walk, with no more faults at the end of the input than are owed there. -/
def Walks (site : Site) (p : Phrase) (ts : List Token) (found : List Finding) (rest : List Token) :
    Prop :=
  ∃ n, Walk site.finish ts found rest n ∧ (ts.length = 0 → n ≤ p.missed) ∧
    (0 < ts.length → n ≤ p.owed site.room)

theorem Reads.walks {site : Site} {p : Phrase} {ts rest : List Token} {found : List Finding}
    (h : Reads site p ts found rest) : Walks site p ts found rest := by
  -- The walks of the parts come one after another, and their counts add up. A part that has noted a
  -- fault at the end leaves no token (`ends`), so the next one owes no more than what it misses there.
  induction h with
  | programEnd | statementEnd | alternativeEnd | bodyEnd | operandsEnd | primaryEnd =>
    exact ⟨0, .done [], fun _ => Nat.zero_le _, fun _ => Nat.zero_le _⟩
  | alternativeNone | bodyClose | operandsNone =>
    exact ⟨0, .done _, fun _ => Nat.zero_le _, fun _ => Nat.zero_le _⟩
  | statementDeep | declarationOther | primaryDeep | primaryOther =>
    exact ⟨0, .skip _ (.done _), fun _ => Nat.zero_le _, fun _ => Nat.zero_le _⟩
  | declarationEnd site => exact ⟨1, .overdue _ (.done []), fun _ => Nat.le_refl 1, by simp⟩
  | statementDeclaration full _ _ ih | statementConditional full _ _ _ ih
  | statementBlock full _ _ _ _ ih | statementExpression full _ _ _ _ ih =>
    obtain ⟨n, walk, -, owed⟩ := ih
    have room := mt Site.room_eq_zero_iff.2 full
    refine ⟨n, walk, by simp, fun some => ?_⟩
    have le := owed some
    simp only [Phrase.owed] at le ⊢
    omega
  | @programMore site t r _ _ ts₁ _ _ _ ih ih' | @bodyMore site t r _ _ ts₁ _ _ _ _ ih ih' =>
    obtain ⟨m, walk, -, owed⟩ := ih
    obtain ⟨n, walk', missed', owed'⟩ := ih'
    refine ⟨m + n, walk.append walk', by simp, fun some => ?_⟩
    have le := owed some
    have ends : 0 < m → ts₁.length = 0 := fun pos => walk.length_rest (.inr pos)
    simp only [Phrase.owed, Phrase.missed] at *
    omega
  | @operandsMore site t r _ ts₁ _ _ sign _ _ ih ih' =>
    obtain ⟨m, walk, missed, owed⟩ := ih
    obtain ⟨n, walk', missed', owed'⟩ := ih'
    have type := Token.not_isTypeKeyword_of_isAnyOperator sign
    refine ⟨m + n, .pass type (walk.append walk'), by simp, fun some => ?_⟩
    have ends : 0 < m → ts₁.length = 0 := fun pos => walk.length_rest (.inr pos)
    simp only [Phrase.owed, Phrase.missed] at *
    omega
  | @expression site ts _ ts₁ _ _ _ _ ih ih' =>
    obtain ⟨m, walk, missed, owed⟩ := ih
    obtain ⟨n, walk', missed', owed'⟩ := ih'
    have ends : 0 < m → ts₁.length = 0 := fun pos => walk.length_rest (.inr pos)
    have ends' : ts.length = 0 → ts₁.length = 0 := fun none => walk.length_rest (.inl none)
    refine ⟨m + n, walk.append walk', ?_, ?_⟩
    all_goals
      simp only [Phrase.owed, Phrase.missed] at *
      omega
  | @alternativeConditional site t r found ts₁ word word' _ ih =>
    obtain ⟨n, walk, -, owed⟩ := ih
    have type := Token.not_isTypeKeyword_of_isKeyword word (by decide)
    have some : 0 < r.length := by
      obtain ⟨u, r, rfl, -⟩ := exists_cons_of_head?_any word'
      simp
    exact ⟨n, .pass type walk, by simp, fun _ => owed some⟩
  | alternativeBlock word _ _ _ ih | alternativeStatement word _ _ _ ih =>
    obtain ⟨n, walk, missed, owed⟩ := ih
    have type := Token.not_isTypeKeyword_of_isKeyword word (by decide)
    refine ⟨n, .pass type walk, by simp, fun some => ?_⟩
    simp only [Phrase.owed, Phrase.missed] at *
    omega
  | @expressionStatement site ts _ ts₁ _ ih =>
    obtain ⟨m, walk, missed, owed⟩ := ih
    have ends : ts.length = 0 ∨ 0 < m → ts₁.length = 0 := walk.length_rest
    refine ⟨_, walk.append (.expect_delimiter site ";" ts₁ _), ?_, ?_⟩
    all_goals
      simp only [Phrase.owed, Phrase.missed] at *
      omega
  | @block site ts body ts₁ _ ih =>
    obtain ⟨n, walk, missed, owed⟩ := ih
    have ends : ts.tail.length = 0 ∨ 0 < n → ts₁.length = 0 := walk.length_rest
    refine ⟨_, .block (walk.append (.expect_delimiter site "\x7d" ts₁ _)), ?_, ?_⟩
    all_goals
      simp only [Phrase.owed, Phrase.missed, Site.room_deeper, List.length_tail] at *
      omega
  | @primaryAtom site t r atom =>
    have type : ¬ t.isTypeKeyword := Token.not_isTypeKeyword_of_startsExpression (by
      rw [Token.startsExpression, atom, Bool.true_or])
    exact ⟨0, .pass type (.done r), fun _ => Nat.zero_le _, fun _ => Nat.zero_le _⟩
  | @primaryGroup site t r inner ts₁ _ mark full _ ih =>
    obtain ⟨n, walk, missed, owed⟩ := ih
    have room := mt Site.room_eq_zero_iff.2 full
    have ends : r.length = 0 ∨ 0 < n → ts₁.length = 0 := walk.length_rest
    have type := Token.not_isTypeKeyword_of_isDelimiter mark
    refine ⟨_, .pass type (walk.append (.expect_delimiter site ")" ts₁ _)).group, by simp, fun _ => ?_⟩
    simp only [Phrase.owed, Phrase.missed, Site.room_deeper] at *
    omega
  | @conditional site ts condition ts₁ branch ts₂ other ts₃ _ _ _ ih ih' ih'' =>
    obtain ⟨m, walk, missed, owed⟩ := ih
    obtain ⟨n, walk', missed', owed'⟩ := ih'
    obtain ⟨k, walk'', missed'', owed''⟩ := ih''
    have word : ∀ t : Token, t.isKeyword "if" → ¬ t.isTypeKeyword :=
      fun t h => Token.not_isTypeKeyword_of_isKeyword h (by decide)
    have ends := walk.length_rest
    have ends' := walk'.length_rest
    refine ⟨_, (((((Walk.expect word ts _).append (.expect_delimiter site "(" ts.tail _)).append walk).append
      (.expect_delimiter site ")" ts₁ _)).append walk').append walk'', ?_, ?_⟩
    all_goals
      simp only [Phrase.owed, Phrase.missed, List.length_tail] at *
      by_cases last : ts₁.length - 1 = 0
      · -- The input ends before the block, which then misses its two braces.
        have branch : n ≤ 2 ∧ k = 0 := by omega
        clear missed' owed' missed'' owed'' ends'
        omega
      · -- Nothing is missed before the block.
        have condition : m = 0 ∧ 2 < ts.length := by omega
        clear missed owed ends missed'
        omega
  | @declarationInitialized site t r value ts₁ type sign inner ih =>
    obtain ⟨n, walk, missed, owed⟩ := ih
    obtain ⟨e, r', tail, sign⟩ := exists_cons_of_head?_any sign
    rw [tail, List.tail_cons] at inner walk missed owed ⊢
    have ends : r'.length = 0 ∨ 0 < n → ts₁.length = 0 := walk.length_rest
    have kind := Token.not_isTypeKeyword_of_isAnyOperator (Token.isAnyOperator_of_isOperator sign)
    have body : Walk site.finish r.tail _ _ _ :=
      tail ▸ Walk.pass kind (walk.append (.expect_delimiter site ";" ts₁ .declarationEnd))
    have none : outline (value ++ site.expect ts₁ (·.isDelimiter ";") .declarationEnd) = [] := by
      rw [outline_append, outline_expect, inner.outline_expression trivial]
      rfl
    rw [List.append_assoc (site.expect r _ _)]
    refine ⟨_, .declaration type none (tail ▸ inner.startsWithValue sign) body, by simp, fun _ => ?_⟩
    have length : 0 < r.tail.length := by simp [tail]
    simp only [Phrase.owed, Phrase.missed, List.length_tail] at *
    omega
  | @declarationPlain site t r type sign =>
    have body : Walk site.finish r.tail _ _ _ :=
      .expect_delimiter site ";" r.tail .declarationEnd
    refine ⟨_, .declaration type (outline_expect ..) (.none sign) body, by simp, fun _ => ?_⟩
    simp only [Phrase.owed]
    omega

end MiniC
