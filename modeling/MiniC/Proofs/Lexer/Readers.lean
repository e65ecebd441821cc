/-
  MiniC.Proofs.Lexer.Readers — how far each reader of the lexer reaches.

  For every rule a text that starts as the rule says is read by the reader of that rule
  through the end of the piece, no further and no less (`lineComment_eq` to `symbol_other`).
  The other way round, every text that starts like a comment, a string, a numeral or a word
  has such a piece at its start (`applies_lineComment` to `applies_word`).
-/

import MiniC.Proofs.Lexer.Rules

namespace MiniC

open Vocabulary

/-! ## Runs of characters -/

theorem takeWhile_append_stop {p : Char → Bool} {w rest : List Char} (inside : ∀ c ∈ w, p c)
    (stop : ¬ rest.head?.any p) : (w ++ rest).takeWhile p = w := by
  rw [List.takeWhile_append_of_pos inside]
  cases rest with
  | nil => simp
  | cons c r => simp_all

theorem takeWhile_append_cons {p : Char → Bool} {cs r : List Char} {d : Char} (stop : ¬ p d) :
    (cs ++ d :: r).takeWhile p = cs.takeWhile p := by
  induction cs with
  | nil => simp [stop]
  | cons c cs ih =>
    rw [List.cons_append, List.takeWhile_cons, List.takeWhile_cons, ih]

theorem take_takeWhile (p : Char → Bool) (cs : List Char) :
    cs.take (cs.takeWhile p).length = cs.takeWhile p :=
  (List.prefix_iff_eq_take.1 (List.takeWhile_prefix p)).symm

theorem head?_dropWhile_stop (p : Char → Bool) (cs : List Char) :
    ¬ (cs.dropWhile p).head?.any p := by
  induction cs with
  | nil => simp
  | cons c r ih =>
    by_cases h : p c
    · rwa [List.dropWhile_cons_of_pos h]
    · simp [List.dropWhile_cons_of_neg h, h]

namespace Segment

/-! ## Comments -/

theorem throughClose_close {body rest : List Char} (h : ¬ ['*', '/'] <:+: body ++ ['*']) :
    throughClose (body ++ '*' :: '/' :: rest) = some (body.length + 2) := by
  induction body with
  | nil => rfl
  | cons c body ih =>
    have later : ¬ ['*', '/'] <:+: body ++ ['*'] := fun hi =>
      h (List.infix_cons_iff.2 (.inr hi))
    cases body with
    | nil => rw [List.cons_append, List.nil_append, throughClose.eq_4 _ _ _ (by simp)]; rfl
    | cons d body =>
      have open_ : c = '*' → d = '/' → False := by
        intro star slash
        subst star slash
        exact h ⟨[], body ++ ['*'], by simp⟩
      rw [List.cons_append, List.cons_append, throughClose.eq_4 _ _ _ open_, ← List.cons_append,
        ih later]
      rfl

/-- No close is found exactly where there is none. -/
theorem throughClose_eq_none_iff {cs : List Char} :
    throughClose cs = none ↔ ¬ ['*', '/'] <:+: cs := by
  fun_induction throughClose cs with
  | case1 => decide
  | case2 c => exact iff_of_true rfl fun hi => absurd hi.length_le (by simp)
  | case3 r => exact iff_of_false (by simp) fun no => no ⟨[], r, rfl⟩
  | case4 c d r first ih =>
    have start : ¬ ['*', '/'] <+: c :: d :: r := by
      intro start
      obtain ⟨t, ht⟩ := start
      obtain ⟨star, ht⟩ := List.cons.inj ht
      exact first star.symm (List.cons.inj ht).1.symm
    rw [Option.map_eq_none_iff, ih, List.infix_cons_iff (a := c)]
    exact not_congr (or_iff_right start).symm

/-- The first close splits the text. -/
theorem exists_of_throughClose {cs : List Char} {n : Nat} (h : throughClose cs = some n) :
    ∃ body rest, cs = body ++ '*' :: '/' :: rest ∧ ¬ ['*', '/'] <:+: body ++ ['*'] := by
  fun_induction throughClose cs generalizing n with
  | case1 => simp at h
  | case2 => simp at h
  | case3 r => exact ⟨[], r, rfl, by decide⟩
  | case4 c d r first ih =>
    obtain ⟨m, hm, rfl⟩ := Option.map_eq_some_iff.1 h
    obtain ⟨body, rest, split, no⟩ := ih hm
    refine ⟨c :: body, rest, by rw [split, List.cons_append], fun hi => ?_⟩
    rcases List.infix_cons_iff.1 hi with start | later
    · obtain ⟨t, ht⟩ := start
      cases body with
      | nil => simp at ht
      | cons e body =>
        obtain ⟨star, ht⟩ := List.cons.inj ht
        have head : d = e := (List.cons.inj split).1
        have next : '/' = e := (List.cons.inj ht).1
        exact first star.symm (head.trans next.symm)
    · exact no later

/-! ## Strings -/

theorem stringBody_item {item : List Char} (h : StringItem item) (cs : List Char) :
    stringBody (item ++ cs) = (stringBody cs).longer item.length := by
  rcases h with ⟨c, rfl, quote, slash, feed⟩ | ⟨c, rfl, feed⟩
  · rw [List.singleton_append, stringBody.eq_def]
    split <;> simp_all
  · rw [List.cons_append, List.singleton_append, stringBody.eq_6 _ _ (by simpa using feed)]
    rfl

theorem longer_longer (m n : Nat) (e : Extent) : (e.longer n).longer m = e.longer (m + n) := by
  simp [Extent.longer, Nat.add_assoc]

theorem stringBody_items {items : List (List Char)} (h : ∀ item ∈ items, StringItem item)
    (cs : List Char) :
    stringBody (items.flatten ++ cs) = (stringBody cs).longer items.flatten.length := by
  induction items with
  | nil => simp [Extent.longer]
  | cons item items ih =>
    rw [List.flatten_cons, List.append_assoc, stringBody_item (h item List.mem_cons_self),
      ih fun i hi => h i (List.mem_cons_of_mem _ hi), longer_longer, List.length_append]

/-- After its opening quote a string is closed, or it breaks off. -/
theorem exists_items (cs : List Char) :
    ∃ items : List (List Char), (∀ item ∈ items, StringItem item) ∧
      ((∃ rest, cs = items.flatten ++ '"' :: rest) ∨
        ∃ slash stop rest, cs = items.flatten ++ (slash ++ stop) ++ rest ∧
          (slash = [] ∨ slash = ['\\']) ∧ (stop = ['\n'] ∨ stop = [] ∧ rest = [])) := by
  fun_induction stringBody cs with
  | case1 => exact ⟨[], by simp, .inr ⟨[], [], [], by simp⟩⟩
  | case2 r => exact ⟨[], by simp, .inl ⟨r, rfl⟩⟩
  | case3 r => exact ⟨[], by simp, .inr ⟨[], ['\n'], r, by simp⟩⟩
  | case4 => exact ⟨[], by simp, .inr ⟨['\\'], [], [], by simp⟩⟩
  | case5 r => exact ⟨[], by simp, .inr ⟨['\\'], ['\n'], r, by simp⟩⟩
  | case6 c r feed ih =>
    obtain ⟨items, good, rest⟩ := ih
    have item : StringItem ['\\', c] := .inr ⟨c, rfl, fun h => feed h⟩
    refine ⟨['\\', c] :: items, List.forall_mem_cons.2 ⟨item, good⟩, ?_⟩
    rcases rest with ⟨rest, rfl⟩ | ⟨slash, stop, rest, rfl, ends⟩
    · exact .inl ⟨rest, by simp⟩
    · exact .inr ⟨slash, stop, rest, by simp, ends⟩
  | case7 c r quote feed alone broken pair ih =>
    obtain ⟨items, good, rest⟩ := ih
    have plain : c ≠ '\\' := fun h => by
      cases r with
      | nil => exact alone h rfl
      | cons d r => exact pair d r h rfl
    have item : StringItem [c] := .inl ⟨c, rfl, quote, plain, feed⟩
    refine ⟨[c] :: items, List.forall_mem_cons.2 ⟨item, good⟩, ?_⟩
    rcases rest with ⟨rest, rfl⟩ | ⟨slash, stop, rest, rfl, ends⟩
    · exact .inl ⟨rest, by simp⟩
    · exact .inr ⟨slash, stop, rest, by simp, ends⟩

/-! ## Numerals -/

theorem le_digits {cs ds : List Char} (h : Digits ds) (start : ds <+: cs) :
    ds.length ≤ digits cs := by
  obtain ⟨t, rfl⟩ := start
  rw [digits, List.takeWhile_append_of_pos h.2, List.length_append]
  exact Nat.le_add_right _ _

theorem le_numeral {cs ds : List Char} (h : Numeral ds) (start : ds <+: cs) :
    ds.length ≤ numeral cs := by
  rcases h with h | ⟨whole, fraction, hw, hf, rfl⟩
  · exact Nat.le_trans (le_digits h start) (digits_le_numeral cs)
  · obtain ⟨t, rfl⟩ := start
    obtain ⟨d, f, rfl⟩ := List.exists_cons_of_ne_nil hf.1
    have point : ¬ ('.' :: (d :: f) ++ t).head?.any isDigit := by simp; decide
    have whole_eq : digits (whole ++ '.' :: (d :: f) ++ t) = whole.length := by
      rw [digits, List.append_assoc, takeWhile_append_stop hw.2 point]
    have reach : (d :: f).length ≤ digits (d :: f ++ t) :=
      le_digits hf ⟨t, rfl⟩
    have digit : isDigit d := hf.2 d List.mem_cons_self
    simp only [numeral, whole_eq]
    simp only [List.append_assoc, List.drop_left, List.cons_append, digit, if_true]
    simp only [List.cons_append, List.length_append, List.length_cons] at reach ⊢
    omega

theorem digits_take {c : Char} {r : List Char} (h : isDigit c) :
    Digits ((c :: r).take (digits (c :: r))) := by
  rw [digits, take_takeWhile]
  refine ⟨by simp [h], fun d hd => ?_⟩
  exact List.all_eq_true.1 List.all_takeWhile d hd

theorem numeral_take {c : Char} {r : List Char} (h : isDigit c) :
    Numeral ((c :: r).take (numeral (c :: r))) := by
  have whole := digits_take (r := r) h
  simp only [numeral]
  split
  · next d r' point =>
    split
    · next hd =>
      refine .inr ⟨_, _, whole, digits_take (r := r') hd, ?_⟩
      rw [Nat.add_assoc, List.take_add, point, Nat.add_comm, List.take_succ_cons]
    · exact .inl whole
  · exact .inl whole

theorem digits_le_length (cs : List Char) : digits cs ≤ cs.length :=
  (List.takeWhile_prefix _).length_le

theorem numeral_le_length (cs : List Char) : numeral cs ≤ cs.length := by
  have whole := digits_le_length cs
  simp only [numeral]
  split
  · next d r point =>
    split
    · have left := congrArg List.length point
      rw [List.length_drop, List.length_cons] at left
      have fraction := digits_le_length (d :: r)
      omega
    · exact whole
  · exact whole

theorem longest_numeral {c : Char} {r : List Char} (h : isDigit c) :
    LongestNumeral ((c :: r).take (numeral (c :: r))) (c :: r) := by
  refine ⟨numeral_take h, List.take_prefix _ _, fun ds hn hp => ?_⟩
  rw [List.length_take_of_le (numeral_le_length _)]
  exact le_numeral hn hp

end Segment

theorem LongestNumeral.length_eq {n rest : List Char} (h : LongestNumeral n (n ++ rest)) :
    Segment.numeral (n ++ rest) = n.length := by
  obtain ⟨c, r, rfl, digit⟩ := h.1.head
  apply Nat.le_antisymm
  · have le := h.2.2 _ (Segment.numeral_take (r := r ++ rest) digit) (List.take_prefix _ _)
    rwa [List.length_take_of_le (Segment.numeral_le_length _)] at le
  · exact Segment.le_numeral h.1 h.2.1

/-! ## What each reader gives -/

theorem lineComment_eq {body rest : List Char} (plain : '\n' ∉ body)
    (stop : rest.head?.all (· = '\n')) :
    Segment.lineComment ('/' :: '/' :: body ++ rest)
      = ⟨('/' :: '/' :: body).length, none, none, none⟩ := by
  have inside : ∀ c ∈ '/' :: '/' :: body, (c != '\n') = true := by
    simp only [List.forall_mem_cons]
    exact ⟨by decide, by decide, fun c mem => bne_iff_ne.2 fun e => plain (e ▸ mem)⟩
  have boundary : ¬ rest.head?.any (· != '\n') := by
    cases rest <;> simp_all
  rw [Segment.lineComment, takeWhile_append_stop inside boundary]

theorem blockComment_closed {body rest : List Char} (close : ¬ ['*', '/'] <:+: body ++ ['*']) :
    Segment.blockComment ('/' :: '*' :: (body ++ ['*', '/']) ++ rest)
      = ⟨('/' :: '*' :: (body ++ ['*', '/'])).length, none, none, none⟩ := by
  have through := @Segment.throughClose_close body rest close
  simp [Segment.blockComment, through]
  omega

theorem blockComment_open {body : List Char} (close : ¬ ['*', '/'] <:+: body) :
    Segment.blockComment ('/' :: '*' :: body)
      = ⟨('/' :: '*' :: body).length, some .unterminatedComment, none, none⟩ := by
  simp [Segment.blockComment, Segment.throughClose_eq_none_iff.2 close]

theorem string_closed {items : List (List Char)} {rest : List Char}
    (good : ∀ item ∈ items, StringItem item) :
    Segment.string ('"' :: (items.flatten ++ ['"']) ++ rest)
      = ⟨('"' :: (items.flatten ++ ['"'])).length, none,
          some (.string, String.ofList ('"' :: (items.flatten ++ ['"']))), none⟩ := by
  have extent : Segment.stringExtent ('"' :: (items.flatten ++ ['"']) ++ rest)
      = ⟨('"' :: (items.flatten ++ ['"'])).length, true⟩ := by
    rw [List.cons_append, List.append_assoc, Segment.stringExtent, Segment.stringBody_items good]
    simp [Segment.stringBody, Segment.Extent.longer, Nat.add_comm]
  simp only [Segment.string, extent, if_true, List.take_left]

theorem string_broken {items : List (List Char)} {slash stop rest : List Char}
    (good : ∀ item ∈ items, StringItem item) (escape : slash = [] ∨ slash = ['\\'])
    (ends : stop = ['\n'] ∨ stop = [] ∧ rest = []) :
    Segment.string ('"' :: (items.flatten ++ (slash ++ stop)) ++ rest)
      = ⟨('"' :: (items.flatten ++ (slash ++ stop))).length, some .unterminatedString, none,
          none⟩ := by
  have body : Segment.stringBody (slash ++ stop ++ rest) = ⟨(slash ++ stop).length, false⟩ := by
    rcases escape with rfl | rfl <;> rcases ends with rfl | ⟨rfl, rfl⟩ <;> rfl
  have extent : Segment.stringExtent ('"' :: (items.flatten ++ (slash ++ stop)) ++ rest)
      = ⟨('"' :: (items.flatten ++ (slash ++ stop))).length, false⟩ := by
    rw [List.cons_append, List.append_assoc, Segment.stringExtent, Segment.stringBody_items good, body]
    simp [Segment.Extent.longer, Nat.add_comm]
  simp only [Segment.string, extent, Bool.false_eq_true, if_false]

theorem number_plain {n rest : List Char} (longest : LongestNumeral n (n ++ rest))
    (stop : ¬ rest.head?.any isLetter) :
    Segment.number (n ++ rest) = ⟨n.length, none, some (.number, String.ofList n), none⟩ := by
  simp only [Segment.number, longest.length_eq, List.drop_left, List.take_left, stop]
  rfl

theorem number_faulty {n tail rest : List Char} (longest : LongestNumeral n (n ++ (tail ++ rest)))
    (letter : tail.head?.any isLetter) (inside : ∀ c ∈ tail, isWordChar c)
    (stop : ¬ rest.head?.any isWordChar) :
    Segment.number (n ++ tail ++ rest)
      = ⟨(n ++ tail).length, some (.invalidNumber (String.ofList (n ++ tail))),
          some (.number, String.ofList n), none⟩ := by
  have head : (tail ++ rest).head?.any isLetter := by
    cases tail <;> simp_all
  simp only [List.append_assoc, Segment.number, longest.length_eq, List.drop_left, List.take_left,
    head, if_true, takeWhile_append_stop inside stop, ← List.length_append]
  rw [← List.append_assoc, List.take_left]

theorem word_eq {w rest : List Char} (inside : ∀ c ∈ w, isWordChar c)
    (stop : ¬ rest.head?.any isWordChar) :
    Segment.word (w ++ rest) = ⟨w.length, none,
      some (if String.ofList w ∈ keywords then .keyword else .identifier, String.ofList w),
      if String.ofList w ∈ keywords then none else some (String.ofList w)⟩ := by
  simp only [Segment.word, takeWhile_append_stop inside stop, List.contains_iff_mem]
  split <;> rfl

/-- The sign with the character after it. -/
def pairAt (c : Char) (r : List Char) : String := String.ofList [c] ++ String.ofList (r.take 1)

theorem pairAt_notMem {c : Char} {r : List Char} (h : IsFirst .single (c :: r)) :
    pairAt c r ∉ pairOperators := by
  rw [pairAt, ← String.ofList_append]
  cases r with
  | nil =>
    intro mem
    have long : ∀ pair ∈ pairOperators, pair.toList.length = 2 := by decide
    simpa using long _ mem
  | cons d r => exact fun mem => h .pairOperator (by decide) ⟨_, r, .pairOperator mem, rfl⟩

theorem symbol_pair {c d : Char} {r : List Char} (mem : String.ofList [c, d] ∈ pairOperators) :
    Segment.symbol (String.ofList [c]) (c :: d :: r)
      = ⟨2, none, some (.operator, String.ofList [c, d]), none⟩ := by
  have pair : String.ofList [c] ++ String.ofList [d] = String.ofList [c, d] := by
    rw [← String.ofList_append]; rfl
  simp only [Segment.symbol, List.drop_succ_cons, List.drop_zero, List.take_succ_cons,
    List.take_zero, pair, List.contains_iff_mem, mem, if_true]

theorem symbol_operator {c : Char} {r : List Char} (single : pairAt c r ∉ pairOperators)
    (mem : String.ofList [c] ∈ singleOperators) :
    Segment.symbol (String.ofList [c]) (c :: r)
      = ⟨1, none, some (.operator, String.ofList [c]), none⟩ := by
  simp only [pairAt] at single
  simp only [Segment.symbol, List.drop_succ_cons, List.drop_zero, List.contains_iff_mem, single,
    mem, if_false, if_true]

theorem symbol_delimiter {c : Char} {r : List Char} (single : pairAt c r ∉ pairOperators)
    (mem : String.ofList [c] ∈ delimiters) :
    Segment.symbol (String.ofList [c]) (c :: r)
      = ⟨1, none, some (.delimiter, String.ofList [c]), none⟩ := by
  have noOperator : ∀ mark ∈ delimiters, mark ∉ singleOperators := by decide
  simp only [pairAt] at single
  simp only [Segment.symbol, List.drop_succ_cons, List.drop_zero, List.contains_iff_mem, single,
    noOperator _ mem, mem, if_false, if_true]

theorem symbol_other {c : Char} {r : List Char} (first : IsFirst .other (c :: r))
    (single : pairAt c r ∉ pairOperators) :
    Segment.symbol (String.ofList [c]) (c :: r)
      = ⟨1, some (.unrecognizedSymbol (String.ofList [c])), none, none⟩ := by
  have noOperator : String.ofList [c] ∉ singleOperators := fun mem =>
    first .single (by decide) ⟨_, r, .operator mem, rfl⟩
  have noDelimiter : String.ofList [c] ∉ delimiters := fun mem =>
    first .single (by decide) ⟨_, r, .delimiter mem, rfl⟩
  simp only [pairAt] at single
  simp only [Segment.symbol, List.drop_succ_cons, List.drop_zero, List.contains_iff_mem, single,
    noOperator, noDelimiter, if_false]

/-! ## Which rules apply -/

theorem applies_lineComment (r : List Char) : Applies .lineComment ('/' :: '/' :: r) := by
  have plain : '\n' ∉ r.takeWhile (· != '\n') := by
    intro mem
    have pass := List.all_eq_true.1 List.all_takeWhile _ mem
    simp at pass
  have stop : (r.dropWhile (· != '\n')).head?.all (· = '\n') := by
    have head := head?_dropWhile_stop (· != '\n') r
    cases h : r.dropWhile (· != '\n') <;> simp_all
  exact ⟨_, _, .lineComment plain stop, by simp⟩

theorem applies_blockComment (r : List Char) : Applies .blockComment ('/' :: '*' :: r) := by
  cases h : Segment.throughClose r with
  | none =>
    refine ⟨_, _, .openComment (Segment.throughClose_eq_none_iff.1 h), ?_⟩
    simp
  | some n =>
    obtain ⟨body, rest, rfl, first⟩ := Segment.exists_of_throughClose h
    refine ⟨_, rest, .blockComment first, ?_⟩
    simp

theorem applies_string (r : List Char) :
    Applies .string ('"' :: r) ∨ Applies .brokenString ('"' :: r) := by
  obtain ⟨items, good, ⟨rest, rfl⟩ | ⟨slash, stop, rest, rfl, escape, ends⟩⟩ :=
    Segment.exists_items r
  · exact .inl ⟨_, rest, .string good, by simp⟩
  · exact .inr ⟨_, rest, .brokenString good escape ends, by simp⟩

theorem applies_number {c : Char} (r : List Char) (digit : isDigit c) :
    Applies .number (c :: r) := by
  have longest := Segment.longest_numeral (r := r) digit
  have split := (List.take_append_drop (Segment.numeral (c :: r)) (c :: r)).symm
  revert longest split
  generalize (c :: r).take (Segment.numeral (c :: r)) = n
  generalize (c :: r).drop (Segment.numeral (c :: r)) = rest
  intro longest split
  rw [split] at longest ⊢
  by_cases letter : rest.head?.any isLetter
  · have tail : rest.takeWhile isWordChar ++ rest.dropWhile isWordChar = rest := by simp
    have start : (rest.takeWhile isWordChar).head?.any isLetter := by
      cases rest with
      | nil => simp at letter
      | cons d rest =>
        have : isLetter d := by simpa using letter
        simp [isWordChar, this]
    have inside : ∀ c ∈ rest.takeWhile isWordChar, isWordChar c :=
      List.all_eq_true.1 List.all_takeWhile
    have stop := head?_dropWhile_stop isWordChar rest
    rw [← tail] at longest
    exact ⟨_, _, .badNumber longest start inside stop, by simp⟩
  · exact ⟨_, rest, .number longest letter, rfl⟩

theorem applies_word {c : Char} (r : List Char) (letter : isLetter c) :
    Applies .word (c :: r) := by
  have inside : ∀ x ∈ r.takeWhile isWordChar, isWordChar x := List.all_eq_true.1 List.all_takeWhile
  have stop := head?_dropWhile_stop isWordChar r
  by_cases reserved : String.ofList (c :: r.takeWhile isWordChar) ∈ keywords
  · exact ⟨_, _, .keyword letter inside stop reserved, by simp⟩
  · exact ⟨_, _, .identifier letter inside stop reserved, by simp⟩

end MiniC
