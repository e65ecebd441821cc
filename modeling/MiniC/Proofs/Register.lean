/-
  MiniC.Proofs.Register — which declarations a register keeps.

  Of a list, `firsts` holds the members that are the same as none before them, and `repeats`
  the others, each with the first member that it is the same as. A register keeps the
  declarations that are the first of their key, and has one error for each other
  (`Register.foldl_declare`).
-/

import Mathlib.Data.List.Find
import MiniC.Declaration

namespace MiniC

/-! ## First members and repeats -/

section
variable {α β : Type} (same : α → α → Prop) [DecidableRel same]

/-- The members that are the same as none before them; `earlier` stand before all. -/
def firsts (earlier : List α) : List α → List α
  | [] => []
  | x :: xs =>
    match earlier.find? (same x ·) with
    | some _ => firsts (earlier ++ [x]) xs
    | none => x :: firsts (earlier ++ [x]) xs

/-- The members that are the same as one before them, each with the first such one. -/
def repeats (earlier : List α) : List α → List (α × α)
  | [] => []
  | x :: xs =>
    match earlier.find? (same x ·) with
    | some y => (x, y) :: repeats (earlier ++ [x]) xs
    | none => repeats (earlier ++ [x]) xs

variable {same} {same' : β → β → Prop} [DecidableRel same'] {f : α → β}

theorem find?_map_same {earlier : List α} {x : α}
    (h : ∀ y ∈ earlier, same' (f x) (f y) ↔ same x y) :
    (earlier.map f).find? (same' (f x) ·) = (earlier.find? (same x ·)).map f := by
  have pointwise : ∀ y ∈ earlier, decide (same' (f x) (f y)) = decide (same x y) :=
    fun y mem => decide_eq_decide.2 (h y mem)
  rw [List.find?_map, ← List.find?_congr pointwise]
  rfl

/-- A map that keeps what is the same and what is not keeps the first members and the
repeats. -/
theorem firsts_repeats_map {earlier xs : List α}
    (h : ∀ x ∈ earlier ++ xs, ∀ y ∈ earlier ++ xs, same' (f x) (f y) ↔ same x y) :
    firsts same' (earlier.map f) (xs.map f) = (firsts same earlier xs).map f ∧
      repeats same' (earlier.map f) (xs.map f)
        = (repeats same earlier xs).map fun (x, y) => (f x, f y) := by
  induction xs generalizing earlier with
  | nil => exact ⟨rfl, rfl⟩
  | cons x xs ih =>
    have later := @ih (earlier ++ [x]) (by simpa using h)
    have found : (earlier.map f).find? (same' (f x) ·) = (earlier.find? (same x ·)).map f :=
      find?_map_same fun y mem => h x (by simp) y (List.mem_append_left _ mem)
    rw [List.map_append] at later
    rw [List.map_cons, firsts, firsts, repeats, repeats, found]
    cases earlier.find? (same x ·) with
    | none => exact ⟨congrArg _ later.1, later.2⟩
    | some y => exact ⟨later.1, congrArg _ later.2⟩

theorem mem_of_mem_firsts {earlier xs : List α} {x : α} (h : x ∈ firsts same earlier xs) :
    x ∈ xs := by
  induction xs generalizing earlier with
  | nil => exact h
  | cons y xs ih =>
    rw [firsts] at h
    cases found : earlier.find? (same y ·) with
    | some z =>
      rw [found] at h
      exact List.mem_cons_of_mem y (ih h)
    | none =>
      rw [found] at h
      rcases List.mem_cons.1 h with rfl | h
      · exact List.mem_cons_self
      · exact List.mem_cons_of_mem y (ih h)

theorem mem_of_mem_repeats {earlier xs : List α} {x y : α} (h : (x, y) ∈ repeats same earlier xs) :
    x ∈ xs ∧ y ∈ earlier ++ xs := by
  induction xs generalizing earlier with
  | nil => exact absurd h List.not_mem_nil
  | cons z xs ih =>
    have later (h : (x, y) ∈ repeats same (earlier ++ [z]) xs) : x ∈ z :: xs ∧ y ∈ earlier ++ z :: xs := by
      obtain ⟨mem, mem'⟩ := ih h
      rw [List.append_assoc] at mem'
      exact ⟨List.mem_cons_of_mem z mem, mem'⟩
    rw [repeats] at h
    cases found : earlier.find? (same z ·) with
    | none =>
      rw [found] at h
      exact later h
    | some w =>
      rw [found] at h
      rcases List.mem_cons.1 h with first | h
      · obtain ⟨rfl, rfl⟩ := Prod.mk.inj first
        exact ⟨List.mem_cons_self, List.mem_append_left _ (List.mem_of_find?_eq_some found)⟩
      · exact later h

/-- The members of two lists in a row: the second goes on where the first has ended. -/
theorem firsts_append (earlier xs ys : List α) :
    firsts same earlier (xs ++ ys) = firsts same earlier xs ++ firsts same (earlier ++ xs) ys := by
  induction xs generalizing earlier with
  | nil => simp [firsts]
  | cons x xs ih =>
    rw [List.cons_append, firsts, firsts, ih]
    cases earlier.find? (same x ·) <;> simp

theorem repeats_append (earlier xs ys : List α) :
    repeats same earlier (xs ++ ys) = repeats same earlier xs ++ repeats same (earlier ++ xs) ys := by
  induction xs generalizing earlier with
  | nil => simp [repeats]
  | cons x xs ih =>
    rw [List.cons_append, repeats, repeats, ih]
    cases earlier.find? (same x ·) <;> simp

/-- Members that stand before all drop what is the same as one of them, and nothing else. -/
theorem firsts_filter (before earlier xs : List α) :
    firsts same (before ++ earlier) xs
      = (firsts same earlier xs).filter fun x => (before.find? (same x ·)).isNone := by
  induction xs generalizing earlier with
  | nil => rfl
  | cons x xs ih =>
    rw [firsts, firsts, List.find?_append, List.append_assoc, ih]
    cases known : before.find? (same x ·) <;> cases earlier.find? (same x ·) <;> simp [known]

/-- Each member is a first one or a repeat. -/
theorem length_firsts_add_length_repeats (earlier xs : List α) :
    (firsts same earlier xs).length + (repeats same earlier xs).length = xs.length := by
  induction xs generalizing earlier with
  | nil => rfl
  | cons x xs ih =>
    have later := ih (earlier ++ [x])
    rw [firsts, repeats]
    cases earlier.find? (same x ·) <;> simp only [List.length_cons] <;> omega

/-- The first members stand in the order of the list. -/
theorem firsts_sublist (earlier xs : List α) : (firsts same earlier xs).Sublist xs := by
  induction xs generalizing earlier with
  | nil => exact .slnil
  | cons x xs ih =>
    rw [firsts]
    cases earlier.find? (same x ·) with
    | none => exact (ih _).cons_cons x
    | some y => exact (ih _).cons x

/-- So do the repeats. -/
theorem repeats_sublist (earlier xs : List α) :
    ((repeats same earlier xs).map Prod.fst).Sublist xs := by
  induction xs generalizing earlier with
  | nil => exact .slnil
  | cons x xs ih =>
    rw [repeats]
    cases earlier.find? (same x ·) with
    | none => exact (ih _).cons x
    | some y => exact (ih _).cons_cons x

/-- Together they are the whole list. -/
theorem firsts_append_repeats_perm (earlier xs : List α) :
    (firsts same earlier xs ++ (repeats same earlier xs).map Prod.fst).Perm xs := by
  induction xs generalizing earlier with
  | nil => exact .nil
  | cons x xs ih =>
    rw [firsts, repeats]
    cases earlier.find? (same x ·) with
    | none => exact (ih _).cons x
    | some y => exact List.perm_middle.trans ((ih _).cons x)

/-- A repeat comes after the member that it is the same as. -/
theorem rel_of_mem_repeats {R : α → α → Prop} {earlier xs : List α} {x y : α}
    (ordered : (earlier ++ xs).Pairwise R) (h : (x, y) ∈ repeats same earlier xs) : R y x := by
  induction xs generalizing earlier with
  | nil => exact absurd h List.not_mem_nil
  | cons z xs ih =>
    have later : (earlier ++ [z] ++ xs).Pairwise R := by simpa using ordered
    rw [repeats] at h
    cases found : earlier.find? (same z ·) with
    | none =>
      rw [found] at h
      exact ih later h
    | some w =>
      rw [found] at h
      rcases List.mem_cons.1 h with first | h
      · obtain ⟨rfl, rfl⟩ := Prod.mk.inj first
        have before := (List.pairwise_append.1 ordered).2.2
        exact before y (List.mem_of_find?_eq_some found) x List.mem_cons_self
      · exact ih later h

/-- The member that a repeat is the same as is a first one. -/
theorem same_of_mem_repeats (trans : ∀ x y z, same x y → same y z → same x z) {earlier xs : List α}
    {x y : α} (h : (x, y) ∈ repeats same earlier xs) :
    same x y ∧ y ∈ firsts same [] (earlier ++ xs) := by
  induction xs generalizing earlier with
  | nil => exact absurd h List.not_mem_nil
  | cons z xs ih =>
    rw [repeats] at h
    have later (h : (x, y) ∈ repeats same (earlier ++ [z]) xs) :
        same x y ∧ y ∈ firsts same [] (earlier ++ z :: xs) := by
      have whole := ih h
      rwa [List.append_assoc, List.singleton_append] at whole
    cases found : earlier.find? (same z ·) with
    | none =>
      rw [found] at h
      exact later h
    | some w =>
      rw [found] at h
      rcases List.mem_cons.1 h with first | h
      · obtain ⟨rfl, rfl⟩ := Prod.mk.inj first
        -- No member before `y` is the same as `y`, or `x` would be the same as that one.
        obtain ⟨alike, as, bs, rfl, before⟩ := List.find?_eq_some_iff_append.1 found
        have alike : same x y := of_decide_eq_true alike
        have new : as.find? (same y ·) = none := by
          rw [List.find?_eq_none]
          intro a mem same'
          exact absurd (trans x y a alike (of_decide_eq_true same')) (by simpa using before a mem)
        refine ⟨alike, ?_⟩
        rw [List.append_assoc, firsts_append, List.nil_append, List.cons_append, firsts, new]
        exact List.mem_append_right _ List.mem_cons_self
      · exact later h

theorem firsts_repeats_congr {other : α → α → Prop} [DecidableRel other] {earlier xs : List α}
    (h : ∀ x ∈ earlier ++ xs, ∀ y ∈ earlier ++ xs, other x y ↔ same x y) :
    firsts other earlier xs = firsts same earlier xs ∧
      repeats other earlier xs = repeats same earlier xs := by
  have mapped := firsts_repeats_map (f := id) h
  simpa using mapped

end

/-! ## Registers -/

/-- The key of `e` is that of `d`. -/
def Declaration.SameKey (d e : Declaration) : Prop := e.key = d.key

instance : DecidableRel Declaration.SameKey := fun d e => decEq e.key d.key

/-- The error of `d`, whose key `previous` has taken. -/
def Declaration.refusal (d previous : Declaration) : SemanticError where
  kind := .redeclaration
  name := d.name
  scope := d.scope
  message := s!"variable '{d.name}' is already declared in scope '{d.scope}'"
  position := d.position
  previousLine := some previous.position.line
  previousColumn := some previous.position.column

/-- The first declarations have the keys of all. -/
theorem mem_firsts_keys {earlier ds : List Declaration} {k : DeclarationKey} :
    k ∈ earlier.map Declaration.key ∨
        k ∈ (firsts Declaration.SameKey earlier ds).map Declaration.key
      ↔ k ∈ (earlier ++ ds).map Declaration.key := by
  induction ds generalizing earlier with
  | nil => simp [firsts]
  | cons d ds ih =>
    have later := @ih (earlier ++ [d])
    rw [List.append_assoc, List.singleton_append] at later
    rw [← later, firsts]
    cases known : earlier.find? (Declaration.SameKey d ·) with
    | none => simp [or_assoc]
    | some e =>
      have taken : d.key ∈ earlier.map Declaration.key := by
        have same : d.SameKey e := by simpa using List.find?_some known
        have same : e.key = d.key := same
        exact same ▸ List.mem_map_of_mem (List.mem_of_find?_eq_some known)
      simp only [List.map_append, List.mem_append, List.map_cons, List.map_nil, List.mem_singleton]
      constructor
      · rintro (mem | mem)
        · exact .inl (.inl mem)
        · exact .inr mem
      · rintro ((mem | rfl) | mem)
        · exact .inl mem
        · exact .inl taken
        · exact .inr mem

/-- A declaration whose key is none of those before is the first of its key. -/
theorem find?_sameKey_isNone (ds : List Declaration) (d : Declaration) :
    (ds.find? (Declaration.SameKey d ·)).isNone
      = decide (d.key ∉ (firsts Declaration.SameKey [] ds).map Declaration.key) := by
  have keys := @mem_firsts_keys [] ds d.key
  simp only [List.map_nil, List.not_mem_nil, false_or, List.nil_append] at keys
  rw [Bool.eq_iff_iff, decide_eq_true_iff, keys, Option.isNone_iff_eq_none, List.find?_eq_none,
    List.mem_map, not_exists]
  constructor
  · intro none e ⟨mem, same⟩
    exact none e mem (decide_eq_true same)
  · intro none e mem same
    exact none e ⟨mem, of_decide_eq_true same⟩

namespace Register

/-- After the declarations `earlier` the index knows the first of each key. -/
def Knows (r : Register) (earlier : List Declaration) : Prop :=
  ∀ k, r.index[k]? = earlier.find? (·.key = k)

theorem knows_empty : empty.Knows [] := by
  intro k
  exact Std.TreeMap.getElem?_emptyc

theorem Knows.declare {r : Register} {earlier : List Declaration} (h : r.Knows earlier)
    (d : Declaration) : (r.declare d).Knows (earlier ++ [d]) := by
  intro k
  rw [getElem?_declare, List.find?_append, h k]
  by_cases same : d.key = k
  · simp [same]
  · simp [same]

/-- A declaration leaves what is declared and what is refused before it. -/
theorem prefix_declare (r : Register) (d : Declaration) :
    r.declarations <+: (r.declare d).declarations ∧ r.errors <+: (r.declare d).errors := by
  unfold Register.declare
  split
  · exact ⟨List.prefix_rfl, List.prefix_append _ _⟩
  · exact ⟨List.prefix_append _ _, List.prefix_rfl⟩

theorem foldl_declare {r : Register} {earlier : List Declaration} (h : r.Knows earlier)
    (ds : List Declaration) :
    (ds.foldl declare r).declarations
        = r.declarations ++ firsts Declaration.SameKey earlier ds ∧
      (ds.foldl declare r).errors
        = r.errors ++ (repeats Declaration.SameKey earlier ds).map fun (d, e) => d.refusal e := by
  induction ds generalizing r earlier with
  | nil => simp [firsts, repeats]
  | cons d ds ih =>
    have later := ih (h.declare d)
    have known : r.index[d.key]? = earlier.find? (Declaration.SameKey d ·) := h d.key
    rw [List.foldl_cons, later.1, later.2, firsts, repeats, declare, known]
    cases earlier.find? (Declaration.SameKey d ·) with
    | none => simp
    | some e => simp [Declaration.refusal, SemanticError.redeclared]

end Register

end MiniC
