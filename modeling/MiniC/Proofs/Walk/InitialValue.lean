/-
  MiniC.Proofs.Walk.InitialValue — the text of an initial value.

  A declaration keeps its initial value as a text: the lexemes of its tokens, one space between each
  two. Tokens of a text that are written out so are read back, strings and signs included
  (`tokenize_spaced`), so the text tells its tokens. Where these stand is told by the walk of the
  reading: behind the name and the sign `=`, without a gap (`StartsWithValue`), whatever has been
  skipped among them.

  Proved:
  - `initial_values_are_slices`: the initial value of a declaration in a text is the part of its
    tokens from behind the `=`, and is read as that part; a text without faults has its next
    semicolon right behind it.
-/

import MiniC.Proofs.Lexer.Respacing
import MiniC.Proofs.Walk.Registrations

namespace MiniC

/-! ## Reading a value back -/

/-- One space. -/
def Gap.space : Gap := ⟨[' '], List.cons_ne_nil _ _, List.forall_mem_singleton.2 rfl⟩

theorem toList_intercalate_space (words : List String) :
    (" ".intercalate words).toList = spaceOut (fun _ => Gap.space) words := by
  match words with
  | [] => rfl
  | [word] => simp [spaceOut]
  | word :: next :: words =>
    rw [String.intercalate_cons_cons, String.toList_append, String.toList_append,
      toList_intercalate_space (next :: words)]
    rfl

/-- Tokens that delimit themselves, written out with spaces, are read back. -/
theorem tokenize_spaced {us : List Token}
    (good : ∀ t ∈ us, SelfDelimiting t.kind t.lexeme.toList) :
    (tokenize (spaced us)).errors = [] ∧
      (tokenize (spaced us)).tokens.map Token.form = us.map Token.form := by
  have forms : ∀ form ∈ us.map Token.form, SelfDelimiting form.1 form.2.toList := by
    intro form mem
    obtain ⟨t, member, rfl⟩ := List.mem_map.1 mem
    exact good t member
  have lexemes : (us.map Token.form).map (·.2) = us.map (·.lexeme) := List.map_map
  have again := segments_spaceOut _ forms (fun _ => Gap.space) .start
  rw [lexemes, ← toList_intercalate_space] at again
  exact again

/-! ## The part of the tokens -/

/-- The text is that of the tokens from index `start` up to index `stop`, of which there is at least one,
and is read as these again. -/
structure IsTextOf (ts : List Token) (start stop : Nat) (text : String) : Prop where
  start_lt : start < stop
  stop_le : stop ≤ ts.length
  text_eq : text = spaced ((ts.take stop).drop start)
  errors_eq : (tokenize text).errors = []
  tokens_eq : (tokenize text).tokens.map Token.form = ((ts.take stop).drop start).map Token.form

/-- What stands at the start of the tokens from index `start` is the part up to its end. -/
theorem take_drop_of_drop_eq {ts value rest : List Token} {start : Nat}
    (behind : ts.drop start = value ++ rest) :
    (ts.take (start + value.length)).drop start = value ∧
      ts[start + value.length]? = rest.head? := by
  constructor
  · rw [List.drop_take, behind, Nat.add_sub_cancel_left, List.take_left]
  · rw [← List.head?_drop, ← List.drop_drop, behind, List.drop_left]

/-- The initial value of the declaration whose name stands at index `i`: none, or the text of the
tokens behind the `=`; these end, in a clean input, with the first semicolon. -/
structure InitialAt (clean : Prop) (ts : List Token) (i : Nat) (initial : Option String) : Prop where
  eq_none_iff : initial = none ↔ ¬ ts[i + 1]?.any (·.isOperator "=") ∨ ts.length = i + 2
  is_text : ∀ text, initial = some text → ∃ stop, IsTextOf ts (i + 2) stop text ∧
    (clean → ts[stop]?.any (·.isDelimiter ";") ∧
      ∀ t ∈ (ts.take stop).drop (i + 2), ¬ t.isDelimiter ";")

theorem StartsWithValue.initialAt {clean : Prop} {ts : List Token} {i : Nat} {initial : Option String}
    (good : ∀ t ∈ ts, SelfDelimiting t.kind t.lexeme.toList) (within : i < ts.length)
    (h : StartsWithValue clean (ts.drop (i + 1)) initial) : InitialAt clean ts i initial := by
  generalize behind : ts.drop (i + 1) = us at h
  have next : ts[i + 1]? = us.head? := by rw [← List.head?_drop, behind]
  have length : ts.length = i + 1 + us.length := by
    have left := congrArg List.length behind
    rw [List.length_drop] at left
    omega
  cases h with
  | none other =>
    rw [← next] at other
    exact ⟨iff_of_true rfl (.inl other), nofun⟩
  | missing sign => exact ⟨iff_of_true rfl (.inr length), nofun⟩
  | @value sign value rest equals some ends =>
    have signed : ts[i + 1]?.any (·.isOperator "=") := by
      rw [next]
      exact equals
    have positive := List.length_pos_iff.2 some
    have more : ts.drop (i + 2) = value ++ rest := by
      rw [← List.tail_drop, behind, List.tail_cons]
    obtain ⟨part, stop⟩ := take_drop_of_drop_eq more
    rw [List.length_cons, List.length_append] at length
    refine ⟨iff_of_false nofun ?_, ?_⟩
    · rintro (other | last)
      · exact other signed
      · omega
    · rintro _ ⟨⟩
      have again := tokenize_spaced fun t (mem : t ∈ value) =>
        good t (List.mem_of_mem_drop (more ▸ List.mem_append_left rest mem))
      refine ⟨i + 2 + value.length, ⟨by omega, by omega, ?_, again.1, ?_⟩, fun whole => ?_⟩
      · rw [part]
      · rw [part]
        exact again.2
      · rw [part, stop]
        exact (ends whole).symm

/-- No two tokens in order share a position. -/
theorem InOrder.index_unique {ts : List Token} (inOrder : InOrder ts) {i j : Nat} {t u : Token}
    (ht : ts[i]? = some t) (hu : ts[j]? = some u) (same : t.position = u.position) : i = j := by
  have apart : (ts.map (·.position)).Nodup := (List.pairwise_map.2 inOrder).imp Position.Before.ne
  have within : i < (ts.map (·.position)).length := by
    rw [List.length_map]
    exact (List.getElem?_eq_some_iff.1 ht).1
  refine (List.getElem?_inj within apart).1 ?_
  rw [List.getElem?_map, List.getElem?_map, ht, hu, Option.map_some, Option.map_some, same]

/-- The initial value of each declaration in a text: its name stands at one index, and behind that,
after the `=`, stand the tokens that its initial value is the text of. -/
theorem initial_values_are_slices (source : String) (limit : Nat) :
    let ts := (tokenize source).tokens
    ∀ d ∈ (parse ts limit).declarations, ∃ i name, ts[i]? = some name ∧ name.isIdentifier ∧
      d.name = name.lexeme ∧ d.position = name.position ∧
      (∀ j t, ts[j]? = some t → t.position = d.position → j = i) ∧
      InitialAt ((parse ts limit).errors = []) ts i d.initial := by
  intro ts d mem
  obtain ⟨stood, whole, -, stands, -⟩ := exists_stood ts limit
  rw [(parse_register ts limit).1] at mem
  obtain ⟨v, listed, rfl⟩ := List.mem_map.1 (mem_of_mem_firsts mem)
  rw [← whole] at listed
  obtain ⟨⟨i, v⟩, member, rfl⟩ := List.mem_map.1 listed
  have stand := stands _ member
  have named := stand.typed.name_at
  have good : ∀ t ∈ ts, SelfDelimiting t.kind t.lexeme.toList :=
    selfDelimiting_of_mem .start source.toList
  have within : i + 1 < ts.length := (List.getElem?_eq_some_iff.1 named).1
  refine ⟨i + 1, v.name, named, stand.typed.isName, rfl, rfl, fun j t there same => ?_, ?_⟩
  · exact (tokenize_inOrder source).index_unique there named same
  · exact stand.value.initialAt good within

/-- A value with a string in it, and no semicolon behind it. -/
theorem a_value_with_a_string_is_read_back :
    let ts := (tokenize "string s = (a + \"b  c\") int t;").tokens
    ∃ d ∈ (parse ts 150).declarations, d.initial = some "( a + \"b  c\" )" ∧
      ∃ i, InitialAt ((parse ts 150).errors = []) ts i d.initial := by
  let source := "string s = (a + \"b  c\") int t;"
  have mem : (⟨"s", some "string", "global", some "( a + \"b  c\" )", ⟨1, 8⟩⟩ : Declaration)
      ∈ (parse (tokenize source).tokens 150).declarations := by
    decide +kernel
  obtain ⟨i, _, _, _, _, _, _, value⟩ := initial_values_are_slices source 150 _ mem
  exact ⟨_, mem, rfl, i, value⟩

end MiniC
