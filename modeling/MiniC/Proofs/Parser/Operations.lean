/-
  MiniC.Proofs.Parser.Operations — what a parser keeps, whatever has been asked of it.

  Anything may be asked of a parser, one after another and in any order (`Parser.Operation`,
  `Parser.Reachable`): the next token, a token of a class, a declaration, a scope to open or to
  close under any label, a phrase or the whole program. Between two of them the parser is
  settled (`Parser.Settled`): no level of nesting is open, and it stands inside its tokens.

  Proved:
  - `Parser.Settled.perform`, `Parser.Reachable.settled`: every operation leaves a settled
    parser settled, so every state that can be reached is.
  - `Parser.Settled.kept_read`: reading a phrase gives the scopes and the level of nesting back,
    moves no way but forward, and adds to what has been found.
  - `Parser.reading_restores`: so every phrase that can be asked for by itself is read to an
    end, within the limit all the way, and uses up a token if one is left; a program uses up all.
-/

import MiniC.Proofs.Parser.Balance
import MiniC.Proofs.Register

namespace MiniC

/-- Is it a phrase that can be asked for by itself, and not the open end of another? -/
def Phrase.IsWhole : Phrase → Prop
  | .blockBody | .operands | .alternative => False
  | _ => True

theorem Phrase.due_of_isWhole {phrase : Phrase} (whole : phrase.IsWhole) (t : Token) (r : List Token) :
    phrase.due (t :: r) = 1 := by
  cases phrase <;> first | rfl | exact whole.elim

namespace Parser

/-- What can be asked of a parser. -/
inductive Operation where
  | advance
  | consumeDelimiter (mark message : String)
  | consumeKeyword (word message : String)
  | consumeIdentifier (message : String)
  | addFault (token : Option Token) (message : String)
  | tooDeep (token : Token)
  | declare (name : Token) (type : String) (initial : Option String)
  | pushScope (label : String)
  | popScope
  | read (phrase : Phrase)
  | parse

/-- The parser after an operation. -/
def perform (p : Parser) : Operation → Parser
  | .advance => p.advance.2
  | .consumeDelimiter mark message => (p.consumeDelimiter mark message).2
  | .consumeKeyword word message => (p.consumeKeyword word message).2
  | .consumeIdentifier message => (p.consumeIdentifier message).2
  | .addFault token message => p.addFault token (.stated message)
  | .tooDeep token => (p.tooDeep token).2
  | .declare name type initial => p.declare name type initial
  | .pushScope label => p.pushScope label
  | .popScope => p.popScope.2
  | .read phrase => p.read phrase
  | .parse => p.parse

/-- The operation asks for the phrase, which can be asked for by itself. -/
inductive Operation.AsksFor : Operation → Phrase → Prop
  | read {phrase : Phrase} : phrase.IsWhole → AsksFor (.read phrase) phrase
  | parse : AsksFor .parse .program

/-- The states of a parser on `tokens`, whatever has been asked of it. -/
inductive Reachable (tokens : List Token) (asked : Int) : Parser → Prop
  | start {p : Parser} : ofTokens tokens asked = .ok p → Reachable tokens asked p
  | perform {p : Parser} (o : Operation) : Reachable tokens asked p →
      Reachable tokens asked (p.perform o)

/-! ## What has been found stays -/

/-- From `p` to `p'` nothing that was found is lost; the tokens and the limit are the same. -/
structure Grows (p p' : Parser) : Prop where
  tokens : p'.tokens = p.tokens
  limit : p'.limit = p.limit
  errors : p.errors <+: p'.errors
  declarations : p.register.declarations <+: p'.register.declarations
  refusals : p.register.errors <+: p'.register.errors

theorem Grows.refl (p : Parser) : p.Grows p :=
  ⟨rfl, rfl, List.prefix_rfl, List.prefix_rfl, List.prefix_rfl⟩

theorem Grows.trans {p p' p'' : Parser} (h : p.Grows p') (h' : p'.Grows p'') : p.Grows p'' where
  tokens := h'.tokens.trans h.tokens
  limit := h'.limit.trans h.limit
  errors := h.errors.trans h'.errors
  declarations := h.declarations.trans h'.declarations
  refusals := h.refusals.trans h'.refusals

theorem grows_note (p : Parser) (x : Finding) : p.Grows (p.note x) := by
  have same : (p.note x).tokens = p.tokens ∧ (p.note x).limit = p.limit := by
    cases x <;> exact ⟨rfl, rfl⟩
  have register : (p.note x).register = p.register ∨ ∃ d, (p.note x).register = p.register.declare d := by
    cases x with
    | declared type name initial => exact .inr ⟨_, rfl⟩
    | _ => exact .inl rfl
  have errors : p.errors <+: (p.note x).errors := by
    rw [note_errors]
    exact List.prefix_append _ _
  have grown : p.register.declarations <+: (p.note x).register.declarations ∧
      p.register.errors <+: (p.note x).register.errors := by
    rcases register with kept | ⟨d, declared⟩
    · rw [kept]
      exact ⟨List.prefix_rfl, List.prefix_rfl⟩
    · rw [declared]
      exact p.register.prefix_declare d
  exact ⟨same.1, same.2, errors, grown.1, grown.2⟩

theorem grows_record (p : Parser) (found : List Finding) : p.Grows (p.record found) := by
  induction found generalizing p with
  | nil => exact .refl p
  | cons x found ih => exact (p.grows_note x).trans (ih _)

/-! ## Settled parsers -/

/-- No level of nesting is open, there is room for one, and the parser stands inside its tokens. -/
structure Settled (tokens : List Token) (p : Parser) : Prop where
  tokens : p.tokens = tokens
  room : 0 < p.limit
  level : p.nesting = 0
  within : p.offset ≤ p.tokens.length

/-- From `p` to `p'` the scopes and the level of nesting are restored, the place moves no way but
forward, and nothing that was found is lost. -/
structure Kept (p p' : Parser) : Prop extends p.Grows p' where
  scopes : p'.scopes = p.scopes
  nesting : p'.nesting = p.nesting
  forward : p.offset ≤ p'.offset
  within : p'.offset ≤ p.tokens.length

theorem length_rest (p : Parser) : p.rest.length = p.tokens.length - p.offset := List.length_drop

section
variable {tokens : List Token} {p : Parser}

theorem Settled.start {asked : Int} (h : ofTokens tokens asked = .ok p) : p.Settled tokens := by
  unfold ofTokens limitFor at h
  split at h
  · cases h
  · next atLeastOne =>
    split at h
    · cases h
      exact ⟨rfl, by show 0 < asked.toNat; omega, rfl, Nat.zero_le _⟩
    · cases h
      exact ⟨rfl, by show 0 < deepestNesting; decide, rfl, Nat.zero_le _⟩

theorem Settled.advance (h : p.Settled tokens) : p.advance.2.Settled tokens := by
  unfold Parser.advance
  split
  · exact h
  · next t r left =>
    have length := p.length_rest
    rw [left, List.length_cons] at length
    exact ⟨h.tokens, h.room, h.level, by show p.offset + 1 ≤ p.tokens.length; omega⟩

theorem Settled.addFault (h : p.Settled tokens) (token : Option Token) (f : SyntaxFault) :
    (p.addFault token f).Settled tokens :=
  ⟨h.tokens, h.room, h.level, h.within⟩

theorem Settled.consume (h : p.Settled tokens) (wanted : Token → Bool) (f : SyntaxFault) :
    (p.consume wanted f).2.Settled tokens := by
  unfold Parser.consume
  split
  · exact h.addFault none f
  · split
    · exact h.advance
    · exact (h.addFault _ f).advance

theorem Settled.tooDeep (h : p.Settled tokens) (token : Token) : (p.tooDeep token).2.Settled tokens := by
  unfold Parser.tooDeep
  split
  · exact h
  · exact (h.addFault _ _).advance

/-- Reading leaves the tokens that the phrase leaves. -/
theorem rest_read (p : Parser) (phrase : Phrase) :
    (p.read phrase).rest = (phrase.read p.site p.rest).rest := by
  have suffix : (phrase.read p.site p.rest).rest <:+ p.tokens :=
    (reads_read p.site phrase p.rest).rest_suffix.trans (List.drop_suffix _ _)
  have same : (p.read phrase).tokens = p.tokens := (p.grows_record _).tokens
  show (p.read phrase).tokens.drop _ = _
  rw [same]
  exact (List.suffix_iff_eq_drop.1 suffix).symm

theorem Settled.balanced (h : p.Settled tokens) {phrase : Phrase} {found : List Finding}
    {rest : List Token} (reads : Reads p.site phrase p.rest found rest) :
    Balanced p.limit found := by
  have level : p.site.depth = 0 := h.level
  have balanced := reads.balanced fun _ => by rw [level]; exact h.room
  rwa [level] at balanced

/-- Reading a phrase restores the scopes and the level of nesting, and moves forward. -/
theorem Settled.kept_read (h : p.Settled tokens) (phrase : Phrase) : p.Kept (p.read phrase) := by
  have reads := reads_read p.site phrase p.rest
  have restored := (h.balanced reads).restores p
  have left := reads.rest_suffix.length_le
  have length := p.length_rest
  have within := h.within
  have offset : (p.read phrase).offset
      = p.tokens.length - (phrase.read p.site p.rest).rest.length := rfl
  have grows := p.grows_record (phrase.read p.site p.rest).found
  exact {
    tokens := grows.tokens
    limit := grows.limit
    errors := grows.errors
    declarations := grows.declarations
    refusals := grows.refusals
    scopes := restored.1
    nesting := restored.2
    forward := by omega
    within := by omega }

theorem Settled.kept_parse (h : p.Settled tokens) : p.Kept p.parse :=
  have kept := h.kept_read .program
  ⟨⟨kept.tokens, kept.limit, kept.errors, kept.declarations, kept.refusals⟩, kept.scopes,
    kept.nesting, kept.forward, kept.within⟩

theorem Settled.of_kept {p' : Parser} (h : p.Settled tokens) (kept : p.Kept p') :
    p'.Settled tokens where
  tokens := kept.tokens.trans h.tokens
  room := kept.limit ▸ h.room
  level := kept.nesting.trans h.level
  within := kept.tokens ▸ kept.within

/-- Every operation leaves a settled parser settled. -/
theorem Settled.perform (h : p.Settled tokens) (o : Operation) : (p.perform o).Settled tokens := by
  cases o with
  | advance => exact h.advance
  | consumeDelimiter | consumeKeyword | consumeIdentifier => exact h.consume _ _
  | addFault => exact h.addFault _ _
  | tooDeep => exact h.tooDeep _
  | declare | pushScope | popScope => exact ⟨h.tokens, h.room, h.level, h.within⟩
  | read phrase => exact h.of_kept (h.kept_read phrase)
  | parse => exact h.of_kept h.kept_parse

theorem Reachable.settled {asked : Int} (h : Reachable tokens asked p) : p.Settled tokens := by
  induction h with
  | start made => exact .start made
  | perform o _ ih => exact ih.perform o

/-! ## Reading from any state -/

/-- A phrase that can be asked for by itself uses up a token, if one is left. -/
theorem offset_lt_read {phrase : Phrase} (whole : phrase.IsWhole)
    (more : ¬ p.atEnd) : p.offset < (p.read phrase).offset := by
  have length := p.length_rest
  have used := (phrase.read p.site p.rest).used
  have offset : (p.read phrase).offset
      = p.tokens.length - (phrase.read p.site p.rest).rest.length := rfl
  have due : phrase.due p.rest = 1 := by
    cases left : p.rest with
    | nil => exact absurd (by rw [Parser.atEnd, left]; rfl) more
    | cons t r => exact Phrase.due_of_isWhole whole t r
  omega

theorem atEnd_read_program (p : Parser) : (p.read .program).atEnd := by
  rw [Parser.atEnd, rest_read, (reads_read p.site .program p.rest).program_rest]
  rfl

/-- From every state that can be reached, a phrase that can be asked for by itself is read to an
end. The scopes and the level of nesting are then what they were, and the level never passes the
limit on the way; the place moves forward, by one token at least if one is left, and a program
is read to the end of the input; what was found before stays. -/
theorem reading_restores {asked : Int} (reached : Reachable tokens asked p) {o : Operation}
    {phrase : Phrase} (asks : o.AsksFor phrase) :
    (∃ found rest, Reads p.site phrase p.rest found rest ∧ (p.perform o).rest = rest ∧
      ∀ s ∈ p.states found, s.nesting ≤ p.limit) ∧
    p.Kept (p.perform o) ∧
    (¬ p.atEnd → p.offset < (p.perform o).offset) ∧
    (phrase = .program → (p.perform o).atEnd) := by
  have settled := reached.settled
  have reads := reads_read p.site phrase p.rest
  have level : ∀ s ∈ p.states (phrase.read p.site p.rest).found, s.nesting ≤ p.limit := by
    intro s mem
    have le := (settled.balanced reads).nesting_le p s mem
    rwa [settled.level, Nat.zero_add] at le
  cases asks with
  | read whole =>
    refine ⟨⟨_, _, reads, p.rest_read phrase, level⟩, settled.kept_read phrase,
      offset_lt_read whole, fun program => ?_⟩
    subst program
    exact p.atEnd_read_program
  | parse =>
    exact ⟨⟨_, _, reads, p.rest_read .program, level⟩, settled.kept_parse,
      offset_lt_read trivial, fun _ => p.atEnd_read_program⟩

/-- A block that is asked for in a scope of its own label, where no brace stands: the scope is
open again afterwards, and the one token is used up. -/
theorem a_block_without_braces_restores :
    let ts : List Token := [⟨.identifier, "x", .start⟩, ⟨.operator, "=", .start⟩]
    let p := ((start ts 1 []).perform (.pushScope "block")).perform (.consumeIdentifier "")
    Reachable ts 1 p ∧ Operation.AsksFor (.read .block) .block ∧
      (p.perform (.read .block)).scopes = ⟨["block"]⟩ ∧ p.offset < (p.perform (.read .block)).offset := by
  intro ts p
  have reached : Reachable ts 1 p := .perform _ (.perform _ (.start rfl))
  have asks : Operation.AsksFor (.read .block) .block := .read trivial
  obtain ⟨-, kept, forward, -⟩ := reading_restores reached asks
  exact ⟨reached, asks, kept.scopes, forward (by decide)⟩

end

end Parser

end MiniC
