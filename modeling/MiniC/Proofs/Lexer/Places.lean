/-
  MiniC.Proofs.Lexer.Places — where the tokens of a text stand.

  Proved:
  - `tokenize_inOrder`: each token of a text stands before the next ones, so no two tokens
    share a position.
  - `Position.colon_injective`: the text of a position tells the position.
-/

import MiniC.Lexer
import Std.Data.String.ToInt

namespace MiniC

namespace Position

/-- The one position comes first in reading order. -/
def Before (p q : Position) : Prop := p.line < q.line ∨ p.line = q.line ∧ p.column < q.column

theorem Before.trans {p q r : Position} (h : p.Before q) (h' : q.Before r) : p.Before r := by
  unfold Before at *
  omega

theorem Before.ne {p q : Position} (h : p.Before q) : p ≠ q := by
  intro e
  subst e
  unfold Before at h
  omega

theorem before_after (p : Position) (c : Char) : p.Before (p.after c) := by
  unfold Before after
  split
  · exact .inl (Int.lt_succ p.line)
  · exact .inr ⟨rfl, Int.lt_succ p.column⟩

theorem before_past (p : Position) {cs : List Char} (h : cs ≠ []) : p.Before (p.past cs) := by
  induction cs generalizing p with
  | nil => exact absurd rfl h
  | cons c cs ih =>
    cases cs with
    | nil => exact before_after p c
    | cons d cs => exact (before_after p c).trans (ih (p.after c) (List.cons_ne_nil d cs))

/-! ## The text of a position -/

theorem not_mem_repr (n : Int) : ':' ∉ n.repr.toList := by
  have digits (m : Nat) : ':' ∉ m.repr.toList := by
    rw [Nat.toList_repr]
    intro h
    exact absurd (Nat.isDigit_of_mem_toDigits (by decide) (by decide) h) (by decide)
  cases n with
  | ofNat m => exact digits m
  | negSucc m =>
    have minus : (Int.negSucc m).repr.toList = '-' :: (m + 1).repr.toList := by
      simp [Int.repr]
    rw [minus, List.mem_cons]
    intro h
    rcases h with h | h
    · exact absurd h (by decide)
    · exact digits (m + 1) h

/-- A line and a column, each without a colon, are told by the text with a colon between. -/
theorem append_colon_inj {as as' bs bs' : List Char} (ha : ':' ∉ as) (ha' : ':' ∉ as')
    (h : as ++ ':' :: bs = as' ++ ':' :: bs') : as = as' ∧ bs = bs' := by
  have upTo (cs ds : List Char) (hc : ':' ∉ cs) :
      (cs ++ ':' :: ds).takeWhile (· != ':') = cs := by
    have pass : ∀ c ∈ cs, (c != ':') = true := fun c mem => bne_iff_ne.2 fun e => hc (e ▸ mem)
    rw [List.takeWhile_append_of_pos pass]
    simp
  have same : as = as' := by rw [← upTo as bs ha, h, upTo as' bs' ha']
  subst same
  exact ⟨rfl, (List.cons.inj (List.append_cancel_left h)).2⟩

theorem colon_injective {p q : Position} (h : p.colon = q.colon) : p = q := by
  have texts : p.line.repr.toList ++ ':' :: p.column.repr.toList
      = q.line.repr.toList ++ ':' :: q.column.repr.toList := by
    have toList (r : Position) :
        r.colon.toList = r.line.repr.toList ++ ':' :: r.column.repr.toList := by
      simp only [colon, String.toList_append]
      show r.line.repr.toList ++ [':'] ++ r.column.repr.toList = _
      rw [List.append_assoc, List.singleton_append]
    rw [← toList, ← toList, h]
  obtain ⟨line, column⟩ := append_colon_inj (not_mem_repr _) (not_mem_repr _) texts
  have line := Int.repr_injective (String.toList_inj.1 line)
  have column := Int.repr_injective (String.toList_inj.1 column)
  cases p
  cases q
  exact congr (congrArg mk line) column

end Position

/-! ## Tokens -/

theorem segments_before (p : Position) (cs : List Char) :
    (∀ s ∈ segments p cs, s.position = p ∨ p.Before s.position) ∧
      (segments p cs).Pairwise fun s t => s.position.Before t.position := by
  fun_induction segments p cs with
  | case1 => exact ⟨fun _ h => absurd h List.not_mem_nil, .nil⟩
  | case2 p c r s ih =>
    have ne : (c :: r).take s.size ≠ [] := by
      intro h
      have size := Segment.next_size_pos c r
      rcases List.take_eq_nil_iff.1 h with zero | nil
      · exact absurd zero (Nat.ne_of_gt size)
      · exact List.cons_ne_nil c r nil
    have later : ∀ t ∈ segments (p.past ((c :: r).take s.size)) ((c :: r).drop s.size),
        p.Before t.position := by
      intro t mem
      rcases ih.1 t mem with same | after
      · rw [same]
        exact p.before_past ne
      · exact (p.before_past ne).trans after
    constructor
    · intro t mem
      rcases List.mem_cons.1 mem with rfl | mem
      · exact .inl rfl
      · exact .inr (later t mem)
    · exact List.pairwise_cons.2 ⟨later, ih.2⟩

/-- Each token stands before those that follow it. -/
def InOrder (ts : List Token) : Prop := ts.Pairwise fun t u => t.position.Before u.position

theorem tokenize_inOrder (source : String) : InOrder (tokenize source).tokens := by
  have tokens : (tokenize source).tokens
      = (segments .start source.toList).filterMap (·.token?) := rfl
  rw [InOrder, tokens, List.pairwise_filterMap]
  refine (segments_before .start source.toList).2.imp ?_
  intro s u before t ht t' ht'
  have position {placed : Placed} {token : Token} (h : placed.token? = some token) :
      token.position = placed.position := by
    obtain ⟨_, -, rfl⟩ := Option.map_eq_some_iff.1 h
    rfl
  rw [position ht, position ht']
  exact before

end MiniC
