/-
  MiniC.Proofs.Layout.Tokens — the same tokens at other places.

  The layout of a text decides where its tokens stand, and nothing else: two texts whose tokens
  agree in kind and lexeme (`Token.form`) differ by a map of positions only (`exists_move`). A
  tally of the moved tokens is the tally of the tokens, moved: names and counts, and the order
  in which they stand, do not depend on positions (`Tally.sorted_recordAll_move`).
-/

import MiniC.Proofs.Lexer.Places
import MiniC.Proofs.Tally

namespace MiniC

/-! ## Moving tokens -/

namespace Token

/-- What a token is, wherever it stands. -/
def form (t : Token) : TokenKind × String := (t.kind, t.lexeme)

/-- The token at another position. -/
def move (f : Position → Position) (t : Token) : Token := { t with position := f t.position }

variable (f : Position → Position) (t : Token)

@[simp] theorem kind_move : (t.move f).kind = t.kind := rfl

@[simp] theorem lexeme_move : (t.move f).lexeme = t.lexeme := rfl

@[simp] theorem position_move : (t.move f).position = f t.position := rfl

theorem move_eq_of_form_eq {f : Position → Position} {t u : Token} (alike : t.form = u.form)
    (place : f t.position = u.position) : t.move f = u := by
  obtain ⟨kind, lexeme⟩ := Prod.mk.inj alike
  unfold move
  rw [place, kind, lexeme]

end Token

/-- Tokens that agree in kind and lexeme with tokens in order are those, moved. -/
theorem exists_move {ts us : List Token} (inOrder : InOrder ts)
    (alike : ts.map Token.form = us.map Token.form) : ∃ f, us = ts.map (Token.move f) := by
  induction ts generalizing us with
  | nil => exact ⟨id, List.map_eq_nil_iff.1 alike.symm⟩
  | cons t ts ih =>
    obtain ⟨u, us, rfl, head, tail⟩ := List.map_eq_cons_iff.1 alike.symm
    obtain ⟨before, inOrder⟩ := List.pairwise_cons.1 inOrder
    obtain ⟨f, rfl⟩ := ih inOrder tail.symm
    -- No later token stands where the first one does, so the map may be changed there.
    refine ⟨fun p => if p = t.position then u.position else f p, ?_⟩
    have first : t.move (fun p => if p = t.position then u.position else f p) = u :=
      Token.move_eq_of_form_eq head.symm (if_pos rfl)
    have later : ∀ x ∈ ts, x.move f = x.move (fun p => if p = t.position then u.position else f p) :=
      fun x mem => Token.move_eq_of_form_eq rfl (if_neg (before x mem).ne.symm).symm
    rw [List.map_cons, first, List.map_congr_left later]

/-! ## Where things stand -/

/-- The positions of the tokens stay where they are, and all others move. -/
def Position.stir (ts : List Token) (p : Position) : Position :=
  if p ∈ ts.map (·.position) then p else ⟨p.line + 1, p.column⟩

theorem Position.mem_of_stir_eq {ts : List Token} {p : Position} (h : p.stir ts = p) :
    p ∈ ts.map (·.position) := by
  by_cases mem : p ∈ ts.map (·.position)
  · exact mem
  · rw [stir, if_neg mem] at h
    have line : p.line + 1 = p.line := congrArg Position.line h
    omega

/-- A map that leaves a list as it is leaves each member as it is. -/
theorem eq_of_map_eq {α : Type} {xs : List α} {f : α → α} (h : xs.map f = xs) :
    ∀ x ∈ xs, f x = x :=
  List.map_inj_left.1 (h.trans (List.map_id xs).symm)

/-- Tokens whose positions a map leaves alone are not moved. -/
theorem map_move_eq_self {f : Position → Position} {ts : List Token}
    (stays : ∀ t ∈ ts, f t.position = t.position) : ts.map (Token.move f) = ts := by
  have same : ∀ t ∈ ts, t.move f = id t := fun t mem => Token.move_eq_of_form_eq rfl (stays t mem)
  rw [List.map_congr_left same, List.map_id]

theorem move_stir (ts : List Token) : ts.map (Token.move (Position.stir ts)) = ts :=
  map_move_eq_self fun _ mem => if_pos (List.mem_map_of_mem mem)

/-! ## Moving tallies -/

/-- The entry with its first occurrence at another position. -/
def RawSymbol.move (f : Position → Position) (s : RawSymbol) : RawSymbol := { s with first := f s.first }

theorem Counted.move {ts : List Token} {name : String} {count : Int} {first : Position}
    (h : Counted ts name count first) (f : Position → Position) :
    Counted (ts.map (Token.move f)) name count (f first) := by
  have moved : occurrences name (ts.map (Token.move f)) = (occurrences name ts).map (Token.move f) :=
    List.filter_map ..
  obtain ⟨x, head, place⟩ := Option.map_eq_some_iff.1 h.first
  constructor
  · rw [moved, List.length_map]
    exact h.count
  · rw [moved, List.head?_map, head, ← place]
    rfl

namespace Tally

variable (f : Position → Position)

theorem record_move (t : Tally) (name : String) (p : Position) :
    record (t.map (RawSymbol.move f)) name (f p) = (record t name p).map (RawSymbol.move f) := by
  induction t with
  | nil => rfl
  | cons s t ih =>
    have same : (s.move f).name = s.name := rfl
    rw [List.map_cons, record, record, same]
    by_cases h : s.name = name
    · rw [if_pos h, if_pos h, List.map_cons]
      rfl
    · rw [if_neg h, if_neg h, List.map_cons, ih]

theorem recordAll_move (t : Tally) (ts : List Token) :
    recordAll (t.map (RawSymbol.move f)) (identifiers (ts.map (Token.move f)))
      = (recordAll t (identifiers ts)).map (RawSymbol.move f) := by
  induction ts generalizing t with
  | nil => rfl
  | cons x ts ih =>
    rw [List.map_cons]
    by_cases h : x.isIdentifier
    · have moved : (x.move f).isIdentifier := h
      rw [identifiers_cons_pos _ h, identifiers_cons_pos _ moved]
      exact (congrArg (recordAll · _) (record_move f t x.lexeme x.position)).trans (ih _)
    · have moved : ¬ (x.move f).isIdentifier := h
      rw [identifiers_cons_neg _ h, identifiers_cons_neg _ moved, ih]

theorem sorted_move (t : Tally) :
    sorted (t.map (RawSymbol.move f)) = (sorted t).map (RawSymbol.move f) := by
  have alike : ∀ a ∈ t, ∀ b ∈ t, before a b = before (a.move f) (b.move f) := fun _ _ _ _ => rfl
  exact (List.map_mergeSort alike).symm

/-- The sorted tally of the moved tokens is that of the tokens, moved. -/
theorem sorted_recordAll_move (ts : List Token) :
    sorted (recordAll [] (identifiers (ts.map (Token.move f))))
      = (sorted (recordAll [] (identifiers ts))).map (RawSymbol.move f) := by
  rw [← sorted_move, ← recordAll_move]
  rfl

/-- A tally of the tokens, moved, is one of the moved tokens. -/
theorem Of.move {t : Tally} {ts : List Token} (h : Of t ts) :
    Of (t.map (RawSymbol.move f)) (ts.map (Token.move f)) := by
  have names : (t.map (RawSymbol.move f)).map (·.name) = t.map (·.name) := by
    rw [List.map_map]
    rfl
  refine ⟨names ▸ h.distinct, fun e mem => ?_, fun x mem identifier => ?_⟩
  · obtain ⟨s, member, rfl⟩ := List.mem_map.1 mem
    exact (h.counted s member).move f
  · obtain ⟨y, member, rfl⟩ := List.mem_map.1 mem
    rw [names]
    exact h.named y member identifier

end Tally

/-- Every entry has its first occurrence at a token. -/
theorem Tally.first_mem {ts : List Token} {s : RawSymbol}
    (h : s ∈ sorted (recordAll [] (identifiers ts))) : s.first ∈ ts.map (·.position) := by
  have kept := sorted_recordAll_move (Position.stir ts) ts
  rw [move_stir] at kept
  exact Position.mem_of_stir_eq (congrArg (·.first) (eq_of_map_eq kept.symm s h))

end MiniC
