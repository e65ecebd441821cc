/-
  MiniC.Proofs.Parser.Balance — what begins while reading ends, and what is left is an end of
  the input.

  Findings are balanced (`Balanced`) when every block and every level of nesting that begins in
  them ends in them, one inside the other. Their height bounds how many levels are open at once.

  Proved:
  - `Reads.balanced`: what is found in a phrase is balanced, and no higher than the limit allows
    where the phrase stands. A block asks for no room itself; the statement that it is, or that
    the conditional around it is, has done so.
  - `Balanced.restores`, `Balanced.nesting_le`: a parser that takes balanced findings has its
    scopes and its level of nesting back, and goes up by no more than their height on the way.
  - `Reads.rest_suffix`: reading passes over tokens from the front only.
-/

import MiniC.Proofs.Parser.Findings
import MiniC.Proofs.Parser.Reads

namespace MiniC

/-- What begins in the findings ends in them, one inside the other, and no more than `height`
levels of nesting are open at once. -/
inductive Balanced : (height : Nat) → List Finding → Prop
  | nil (n : Nat) : Balanced n []
  | fault (n : Nat) (e : SyntaxError) : Balanced n [.fault e]
  | declared (n : Nat) (type name : Token) (initial : Option String) :
      Balanced n [.declared type name initial]
  | block {n : Nat} (brace : Option Token) {inside : List Finding} :
      Balanced n inside → Balanced (n + 1) (Finding.block brace inside)
  | group {n : Nat} {inside : List Finding} :
      Balanced n inside → Balanced (n + 1) (Finding.group inside)
  | append {n : Nat} {first others : List Finding} :
      Balanced n first → Balanced n others → Balanced n (first ++ others)

namespace Balanced

theorem expect (n : Nat) (site : Site) (ts : List Token) (wanted : Token → Bool)
    (what : Expectation) : Balanced n (site.expect ts wanted what) := by
  unfold Site.expect
  split
  · exact .nil n
  · exact .fault n _

theorem declaration (n : Nat) (type : Token) (ts : List Token) (initial : Option String) :
    Balanced n (Finding.declaration type ts initial) := by
  unfold Finding.declaration
  split
  · exact .nil n
  · split
    · exact .declared n _ _ _
    · exact .nil n

end Balanced

/-! ## What is found in a phrase -/

/-- Does a block begin in the phrase before a statement in it has asked for room? -/
def Phrase.BeginsBlock : Phrase → Prop
  | .block | .conditional | .alternative => True
  | _ => False

theorem Site.height_deeper {site : Site} (h : site.depth < site.limit) :
    site.limit - site.depth = site.deeper.limit - site.deeper.depth + 1 := by
  show _ = site.limit - (site.depth + 1) + 1
  omega

/-- What is found in a phrase is balanced, and no higher than the limit allows. -/
theorem Reads.balanced {site : Site} {p : Phrase} {ts rest : List Token} {found : List Finding}
    (h : Reads site p ts found rest) (room : p.BeginsBlock → site.depth < site.limit) :
    Balanced (site.limit - site.depth) found := by
  induction h with
  | programEnd | statementEnd | alternativeEnd | alternativeNone | bodyEnd | bodyClose | operandsEnd
  | operandsNone | primaryEnd | primaryAtom => exact .nil _
  | statementDeep | declarationEnd | declarationOther | primaryDeep | primaryOther => exact .fault _ _
  | statementDeclaration full _ _ ih | statementConditional full _ _ _ ih
  | statementBlock full _ _ _ _ ih | statementExpression full _ _ _ _ ih =>
    exact ih fun _ => Site.lt_of_not_full full
  | alternativeConditional _ _ _ ih | alternativeBlock _ _ _ _ ih => exact ih fun _ => room trivial
  | alternativeStatement _ _ _ _ ih => exact ih nofun
  | programMore _ _ ih ih' | bodyMore _ _ _ ih ih' | expression _ _ ih ih'
  | operandsMore _ _ _ ih ih' => exact (ih nofun).append (ih' nofun)
  | declarationInitialized _ _ _ ih =>
    exact (((Balanced.expect ..).append (ih nofun)).append (.expect ..)).append (.declaration ..)
  | declarationPlain =>
    exact ((Balanced.expect ..).append (.expect ..)).append (.declaration ..)
  | conditional _ _ _ ih ih' ih'' =>
    have branch := ih' fun _ => room trivial
    have other := ih'' fun _ => room trivial
    exact (((((Balanced.expect ..).append (.expect ..)).append (ih nofun)).append
      (.expect ..)).append branch).append other
  | block _ ih =>
    have body := ih nofun
    rw [Site.height_deeper (room trivial)]
    exact (Balanced.expect ..).append (.block _ (body.append (.expect ..)))
  | expressionStatement _ ih => exact (ih nofun).append (.expect ..)
  | primaryGroup _ _ full _ ih =>
    have inner := ih nofun
    rw [Site.height_deeper (Site.lt_of_not_full full)]
    exact .group (inner.append (.expect ..))

/-! ## Taking balanced findings -/

namespace Parser

@[simp] theorem record_append (p : Parser) (first others : List Finding) :
    p.record (first ++ others) = (p.record first).record others :=
  List.foldl_append

/-- The states that a parser goes through while it takes findings. -/
def states (p : Parser) : List Finding → List Parser
  | [] => [p]
  | x :: found => p :: (p.note x).states found

theorem mem_states_append {p s : Parser} {first others : List Finding} :
    s ∈ p.states (first ++ others) ↔ s ∈ p.states first ∨ s ∈ (p.record first).states others := by
  induction first generalizing p with
  | nil => cases others <;> simp [states]
  | cons x first ih => simp [states, ih, or_assoc]

end Parser

namespace Balanced

variable {n : Nat} {found : List Finding}

/-- Balanced findings leave the scopes and the level of nesting as they were. -/
theorem restores (h : Balanced n found) (p : Parser) :
    (p.record found).scopes = p.scopes ∧ (p.record found).nesting = p.nesting := by
  induction h generalizing p with
  | nil | fault | declared => exact ⟨rfl, rfl⟩
  | @block n brace inside _ ih =>
    let q : Parser := (p.note (.opened brace)).note .descended
    have split : p.record (Finding.block brace inside)
        = ((q.record inside).note .ascended).note .closed := by
      show q.record (inside ++ [.ascended, .closed]) = _
      rw [Parser.record_append]
      rfl
    obtain ⟨scopes, nesting⟩ := ih q
    rw [split]
    constructor
    · show (q.record inside).scopes.pop.2 = _
      rw [scopes]
      rfl
    · show (q.record inside).nesting - 1 = _
      rw [nesting]
      rfl
  | @group n inside _ ih =>
    let q : Parser := p.note .descended
    have split : p.record (Finding.group inside) = (q.record inside).note .ascended := by
      show q.record (inside ++ [.ascended]) = _
      rw [Parser.record_append]
      rfl
    obtain ⟨scopes, nesting⟩ := ih q
    rw [split]
    constructor
    · exact scopes
    · show (q.record inside).nesting - 1 = _
      rw [nesting]
      rfl
  | append _ _ ih ih' =>
    rw [Parser.record_append]
    exact ⟨(ih' _).1.trans (ih p).1, (ih' _).2.trans (ih p).2⟩

/-- On the way the level of nesting goes up by no more than their height. -/
theorem nesting_le (h : Balanced n found) (p : Parser) :
    ∀ s ∈ p.states found, s.nesting ≤ p.nesting + n := by
  induction h generalizing p with
  | nil n =>
    intro s mem
    rw [Parser.states, List.mem_singleton] at mem
    subst mem
    omega
  | fault n e =>
    have level : (p.note (.fault e)).nesting = p.nesting := rfl
    simp [Parser.states, level]
  | declared n type name initial =>
    have level : (p.note (.declared type name initial)).nesting = p.nesting := rfl
    simp [Parser.states, level]
  | @block n brace inside balanced ih =>
    let q : Parser := (p.note (.opened brace)).note .descended
    have up : q.nesting = p.nesting + 1 := rfl
    have back := (balanced.restores q).2
    intro s mem
    rcases List.mem_cons.1 mem with rfl | mem
    · omega
    rcases List.mem_cons.1 mem with rfl | mem
    · exact Nat.le_add_right p.nesting _
    rcases Parser.mem_states_append.1 mem with mem | mem
    · have le := ih q s mem
      omega
    · simp only [Parser.states, List.mem_cons, List.not_mem_nil, or_false] at mem
      rcases mem with rfl | rfl | rfl
      · show (q.record inside).nesting ≤ _
        omega
      · show (q.record inside).nesting - 1 ≤ _
        omega
      · show (q.record inside).nesting - 1 ≤ _
        omega
  | @group n inside balanced ih =>
    let q : Parser := p.note .descended
    have up : q.nesting = p.nesting + 1 := rfl
    have back := (balanced.restores q).2
    intro s mem
    rcases List.mem_cons.1 mem with rfl | mem
    · omega
    rcases Parser.mem_states_append.1 mem with mem | mem
    · have le := ih q s mem
      omega
    · simp only [Parser.states, List.mem_cons, List.not_mem_nil, or_false] at mem
      rcases mem with rfl | rfl
      · show (q.record inside).nesting ≤ _
        omega
      · show (q.record inside).nesting - 1 ≤ _
        omega
  | append first _ ih ih' =>
    intro s mem
    rcases Parser.mem_states_append.1 mem with mem | mem
    · exact ih p s mem
    · have le := ih' _ s mem
      rwa [(first.restores p).2] at le

end Balanced

/-! ## What is left -/

/-- Reading passes over tokens from the front only. -/
theorem Reads.rest_suffix {site : Site} {p : Phrase} {ts rest : List Token} {found : List Finding}
    (h : Reads site p ts found rest) : rest <:+ ts := by
  induction h with
  | programEnd | statementEnd | declarationEnd | alternativeEnd | bodyEnd | operandsEnd
  | primaryEnd | alternativeNone | bodyClose | operandsNone => exact List.suffix_rfl
  | statementDeep | declarationOther | primaryAtom | primaryDeep | primaryOther =>
    exact List.suffix_cons _ _
  | statementDeclaration _ _ _ ih | statementConditional _ _ _ _ ih
  | statementBlock _ _ _ _ _ ih | statementExpression _ _ _ _ _ ih => exact ih
  | alternativeConditional _ _ _ ih | alternativeBlock _ _ _ _ ih
  | alternativeStatement _ _ _ _ ih => exact ih.trans (List.suffix_cons _ _)
  | programMore _ _ ih ih' | bodyMore _ _ _ ih ih' | expression _ _ ih ih' => exact ih'.trans ih
  | operandsMore _ _ _ ih ih' => exact (ih'.trans ih).trans (List.suffix_cons _ _)
  | @declarationInitialized site t r value ts₁ _ _ _ ih =>
    have left : r.tail.tail <:+ r := (List.tail_suffix _).trans (List.tail_suffix _)
    exact (((List.tail_suffix _).trans ih).trans left).trans (List.suffix_cons t r)
  | @declarationPlain site t r =>
    have left : r.tail.tail <:+ r := (List.tail_suffix _).trans (List.tail_suffix _)
    exact left.trans (List.suffix_cons t r)
  | @conditional site ts _ _ _ _ _ _ _ _ _ ih ih' ih'' =>
    have left : ts.tail.tail <:+ ts := (List.tail_suffix _).trans (List.tail_suffix _)
    exact ((ih''.trans ih').trans ((List.tail_suffix _).trans ih)).trans left
  | block _ ih => exact ((List.tail_suffix _).trans ih).trans (List.tail_suffix _)
  | expressionStatement _ ih => exact (List.tail_suffix _).trans ih
  | primaryGroup _ _ _ _ ih => exact ((List.tail_suffix _).trans ih).trans (List.suffix_cons _ _)

end MiniC
