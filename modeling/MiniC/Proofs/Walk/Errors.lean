/-
  MiniC.Proofs.Walk.Errors — where syntax errors stand, and how many there are.

  A fault is noted at a token, which is then passed over, or else where no token is left
  (`Walk.errorsInParts`). So the errors of a program come in two parts: those at tokens, one at each at
  most and in the order of the tokens, and behind them those at the end of the input, of which there
  are no more than the phrases that are open there still call for.

  Which errors are of the second part is told by the end itself: they are noted wherever it is said
  to be, and the others are not moved by that (`ErrorParts`).

  Proved:
  - `exists_errorParts`: the errors of every program come in two such parts.
  - `errors_ordered_and_bounded`: so they stand at tokens, in order, at most one at each but the last,
    and are no more than the tokens, the limit and three.
-/

import Mathlib.Data.Fintype.EquivFin
import MiniC.Proofs.Walk

namespace MiniC

/-- The faults, all noted at one position. -/
def faultsAt (p : Position) (fs : List SyntaxFault) : List SyntaxError := fs.map (⟨·, p⟩)

/-! ## Along a walk -/

/-- The errors come in two parts: first those at tokens from `ts` to `rest`, in the order of the tokens
and not two at one, and then `n` at the end of the input. -/
def ErrorsInParts (finish : Position) (ts : List Token) (es : List SyntaxError) (rest : List Token)
    (n : Nat) : Prop :=
  ∃ (skipped : List SyntaxError) (overdue : List SyntaxFault),
    es = skipped ++ faultsAt finish overdue ∧ overdue.length = n ∧
    (skipped.map (·.position) ++ rest.map (·.position)).Sublist (ts.map (·.position))

namespace ErrorsInParts

variable {finish : Position} {ts ts₁ rest : List Token} {es others : List SyntaxError} {m n : Nat}

theorem cons (h : ErrorsInParts finish ts es rest n) (t : Token) :
    ErrorsInParts finish (t :: ts) es rest n := by
  obtain ⟨skipped, overdue, split, count, sub⟩ := h
  exact ⟨skipped, overdue, split, count, sub.cons _⟩

/-- Errors of which some stand at the end of the input are followed by none at a token. -/
theorem append (h : ErrorsInParts finish ts es ts₁ m) (h' : ErrorsInParts finish ts₁ others rest n)
    (ends : 0 < m → ts₁ = []) : ErrorsInParts finish ts (es ++ others) rest (m + n) := by
  obtain ⟨skipped, overdue, rfl, rfl, sub⟩ := h
  obtain ⟨skipped', overdue', rfl, rfl, sub'⟩ := h'
  refine ⟨skipped ++ skipped', overdue ++ overdue', ?_, List.length_append, ?_⟩
  · by_cases none : overdue = []
    · simp [none, faultsAt]
    · have last := ends (List.length_pos_iff.2 none)
      rw [last, List.map_nil, List.sublist_nil, List.append_eq_nil_iff, List.map_eq_nil_iff] at sub'
      simp [sub'.1, faultsAt]
  · rw [List.map_append, List.append_assoc]
    exact ((List.append_sublist_append_left _).2 sub').trans sub

end ErrorsInParts

theorem Walk.errorsInParts {finish : Position} {ts rest : List Token} {found : List Finding} {n : Nat}
    (h : Walk finish ts found rest n) : ErrorsInParts finish ts (faults found) rest n := by
  induction h with
  | done ts => exact ⟨[], [], rfl, rfl, List.Sublist.refl _⟩
  | pass _ _ ih | unnamed _ ih | opened _ _ ih => exact ih.cons _
  | @skip t r _ _ _ f _ ih =>
    have here : ErrorsInParts finish (t :: r) [⟨f, t.position⟩] r 0 :=
      ⟨[⟨f, t.position⟩], [], rfl, rfl, List.Sublist.refl _⟩
    have both := here.append ih nofun
    rwa [Nat.zero_add] at both
  | overdue f _ ih =>
    have here : ErrorsInParts finish [] [⟨f, finish⟩] [] 1 := ⟨[], [f], rfl, rfl, List.Sublist.refl _⟩
    have both := here.append ih fun _ => rfl
    rwa [Nat.add_comm] at both
  | between kind _ ih => cases kind <;> exact ih
  | declared _ _ _ _ around _ ih ih' =>
    rw [faults_append]
    exact ((ih.append ih' fun some => around.rest_eq_nil (.inr some)).cons _).cons _

/-! ## The errors of a program -/

/-- Among the errors of a program, `skipped` stand at tokens, and `overdue` at the end of the input,
wherever that is said to be. -/
structure ErrorParts (ts : List Token) (limit : Nat) (skipped : List SyntaxError)
    (overdue : List SyntaxFault) : Prop where
  errors_eq : ∀ finish, faults (Phrase.program.read ⟨limit, 0, finish⟩ ts).found
    = skipped ++ faultsAt finish overdue
  positions_sublist : (skipped.map (·.position)).Sublist (ts.map (·.position))
  overdue_le : overdue.length ≤ limit + 3

theorem exists_position_notMem (ps : List Position) : ∃ p, p ∉ ps := by
  have lines : Function.Injective fun line : Int => (⟨line, 1⟩ : Position) :=
    fun _ _ h => congrArg Position.line h
  have : Infinite Position := .of_injective _ lines
  obtain ⟨p, new⟩ := Infinite.exists_notMem_finset ps.toFinset
  exact ⟨p, fun mem => new (List.mem_toFinset.2 mem)⟩

/-- The errors of every program come in two such parts. -/
theorem exists_errorParts (ts : List Token) (limit : Nat) :
    ∃ skipped overdue, ErrorParts ts limit skipped overdue := by
  -- The end is first said to be where no token stands. What is noted there moves with it.
  obtain ⟨far, free⟩ := exists_position_notMem (ts.map (·.position))
  have read := reads_read ⟨limit, 0, far⟩ .program ts
  obtain ⟨n, walk, none, some⟩ := read.walks
  obtain ⟨skipped, overdue, split, rfl, sub⟩ := walk.errorsInParts
  rw [read.program_rest, List.map_nil, List.append_nil] at sub
  refine ⟨skipped, overdue, fun finish => ?_, sub, ?_⟩
  · let f (p : Position) : Position := if p = far then finish else p
    have stays {p : Position} (mem : p ∈ ts.map (·.position)) : f p = p :=
      if_neg fun (same : p = far) => free (same ▸ mem)
    have tokens : ts.map (Token.move f) = ts :=
      map_move_eq_self fun t mem => stays (List.mem_map_of_mem mem)
    have errors : skipped.map (SyntaxError.move f) = skipped := by
      have each : ∀ e ∈ skipped, e.move f = id e := fun e mem =>
        congrArg (SyntaxError.mk e.fault) (stays (sub.subset (List.mem_map_of_mem mem)))
      rw [List.map_congr_left each, List.map_id]
    have site : Site.move f ⟨limit, 0, far⟩ = ⟨limit, 0, finish⟩ :=
      congrArg (Site.mk limit 0) (if_pos rfl)
    have moved := (read.move (f := f)).read_eq.1
    rw [site, tokens] at moved
    have ends : (faultsAt far overdue).map (SyntaxError.move f) = faultsAt finish overdue := by
      rw [faultsAt, List.map_map]
      exact List.map_congr_left fun fault _ => congrArg (SyntaxError.mk fault) (if_pos rfl)
    rw [moved, faults_move, split, List.map_append, errors, ends]
  · simp only [Phrase.missed, Phrase.owed, Site.room] at none some
    omega

namespace ErrorParts

variable {front : List Token} {last : Token} {limit : Nat} {skipped : List SyntaxError}
  {overdue : List SyntaxFault}

theorem parse_errors_eq {ts : List Token} (h : ErrorParts ts limit skipped overdue)
    (ends : ts.getLast? = some last) :
    (parse ts limit).errors = skipped ++ faultsAt last.position overdue := by
  have site : Site.ofProgram ts limit = ⟨limit, 0, last.position⟩ := by
    simp only [Site.ofProgram, Parser.site, Parser.start, ends]
  rw [parse_errors, findings, site]
  exact h.errors_eq last.position

theorem pairwise_skipped {ts : List Token} (h : ErrorParts ts limit skipped overdue)
    (inOrder : InOrder ts) : (skipped.map (·.position)).Pairwise Position.Before :=
  (List.pairwise_map.2 inOrder).sublist h.positions_sublist

theorem pairwise (h : ErrorParts (front ++ [last]) limit skipped overdue)
    (inOrder : InOrder (front ++ [last])) :
    (skipped ++ faultsAt last.position overdue).Pairwise
      fun e e' => e.position = e'.position ∨ e.position.Before e'.position := by
  have before : ∀ t ∈ front, t.position.Before last.position := fun t mem =>
    (List.pairwise_append.1 inOrder).2.2 t mem last List.mem_cons_self
  refine List.pairwise_append.2 ⟨(List.pairwise_map.1 (h.pairwise_skipped inOrder)).imp .inr, ?_, ?_⟩
  · exact List.pairwise_map.2 (List.pairwise_of_forall fun _ _ => .inl rfl)
  · intro e mem e' mem'
    obtain ⟨_, -, rfl⟩ := List.mem_map.1 mem'
    obtain ⟨t, among, place⟩ := List.mem_map.1 (h.positions_sublist.subset (List.mem_map_of_mem mem))
    rw [← place]
    rcases List.mem_append.1 among with among | among
    · exact .inr (before t among)
    · exact .inl (congrArg Token.position (List.mem_singleton.1 among))

/-- The errors at a token before the last one are all at that token, and there is one of these. -/
theorem countP_le_one (h : ErrorParts (front ++ [last]) limit skipped overdue)
    (inOrder : InOrder (front ++ [last])) {t : Token} (mem : t ∈ front) :
    (skipped ++ faultsAt last.position overdue).countP (·.position = t.position) ≤ 1 := by
  have apart : last.position ≠ t.position :=
    ((List.pairwise_append.1 inOrder).2.2 t mem last List.mem_cons_self).ne.symm
  have single : (skipped.map (·.position)).Nodup := (h.pairwise_skipped inOrder).imp Position.Before.ne
  have once := List.nodup_iff_count_le_one.1 single t.position
  have none : (faultsAt last.position overdue).countP (·.position = t.position) = 0 := by
    simp [List.countP_eq_zero, faultsAt, apart]
  rw [List.count, List.countP_map] at once
  rw [List.countP_append, none]
  exact once

end ErrorParts

/-- The syntax errors of tokens in order stand at tokens, in order, and at most one at each but the
last. Those noted at the end of the input stand at the last token; they are at most three more than
the limit, and the others at most as many as the tokens. -/
theorem errors_ordered_and_bounded {ts : List Token} (inOrder : InOrder ts) (limit : Nat) :
    (∀ e ∈ (parse ts limit).errors, ∃ t ∈ ts, e.position = t.position) ∧
    (parse ts limit).errors.Pairwise
      (fun e e' => e.position = e'.position ∨ e.position.Before e'.position) ∧
    (∀ t ∈ ts.dropLast, (parse ts limit).errors.countP (·.position = t.position) ≤ 1) ∧
    (∃ skipped overdue, ErrorParts ts limit skipped overdue ∧
      ∀ last ∈ ts.getLast?,
        (parse ts limit).errors = skipped ++ faultsAt last.position overdue) ∧
    (parse ts limit).errors.length ≤ ts.length + limit + 3 := by
  obtain ⟨skipped, overdue, parts⟩ := exists_errorParts ts limit
  have at_tokens : ∀ e ∈ (parse ts limit).errors, ∃ t ∈ ts, e.position = t.position := by
    intro e mem
    rw [parse_errors] at mem
    obtain ⟨t, among, place⟩ := List.mem_map.1 (position_mem_of_fault mem)
    exact ⟨t, among, place.symm⟩
  have split : ∃ skipped overdue, ErrorParts ts limit skipped overdue ∧ ∀ last ∈ ts.getLast?,
      (parse ts limit).errors = skipped ++ faultsAt last.position overdue :=
    ⟨skipped, overdue, parts, fun _ ends => parts.parse_errors_eq ends⟩
  rcases List.eq_nil_or_concat' ts with rfl | ⟨front, last, rfl⟩
  · have none : (parse [] limit).errors = [] := by
      refine List.eq_nil_iff_forall_not_mem.2 fun e mem => ?_
      obtain ⟨t, among, -⟩ := at_tokens e mem
      exact List.not_mem_nil among
    refine ⟨at_tokens, ?_, nofun, split, ?_⟩
    · rw [none]
      exact .nil
    · rw [none]
      exact Nat.zero_le _
  · have errors := parts.parse_errors_eq List.getLast?_concat
    refine ⟨at_tokens, ?_, fun t mem => ?_, split, ?_⟩
    · rw [errors]
      exact parts.pairwise inOrder
    · rw [List.dropLast_concat] at mem
      rw [errors]
      exact parts.countP_le_one inOrder mem
    · have some := parts.positions_sublist.length_le
      have rest := parts.overdue_le
      rw [List.length_map, List.length_map] at some
      rw [errors, List.length_append, faultsAt, List.length_map]
      omega

/-- As many phrases as the limit lets be open, and a conditional: each error at the end is noted. -/
theorem three_more_errors_than_the_limit :
    let ts := (tokenize "if (((").tokens
    InOrder ts ∧ (parse ts 2).errors.length = 2 + 3 ∧
      (parse ts 2).errors.Pairwise
        fun e e' => e.position = e'.position ∨ e.position.Before e'.position :=
  have inOrder := tokenize_inOrder "if ((("
  ⟨inOrder, by decide +kernel, (errors_ordered_and_bounded inOrder 2).2.1⟩

end MiniC
