/-
  MiniC.Proofs.Tally — what a tally counts.

  A tally of tokens has one entry for each name among their identifiers: how many of them have
  the name, and where the first stands (`Tally.Of`). Each identifier that is recorded keeps it so,
  and what segments enter are the identifiers among their tokens.

  Proved:
  - `Tally.Of.recordAll`: a tally into which the identifiers of tokens are recorded is a tally of
    these tokens, too.
  - `Tally.Of.sorted_eq`: two tallies of the same tokens are one when they are sorted.
  - `Tally.Of.sorted_strict`: sorted, the names stand in strict order.
  - `Tally.Of.merged`: tallies of two texts, merged, are a tally of both, one after the other.
  - `Segment.nameless_or_word`: no reader but that of words gives identifiers.
  - `Lexer.tally_take`: segments that are taken have the identifiers of their tokens recorded.
  - `tokenize_tally`: the symbols of a text are the tally of its tokens.
-/

import Mathlib.Data.List.Nodup
import Mathlib.Data.String.Basic
import MiniC.Lexer
import MiniC.SymbolTable

namespace MiniC

/-! ## Occurrences -/

/-- The texts of the identifiers, each with its position. -/
def identifiers (ts : List Token) : List (String × Position) :=
  (ts.filter (·.isIdentifier)).map fun t => (t.lexeme, t.position)

theorem identifiers_cons_pos {t : Token} (ts : List Token) (identifier : t.isIdentifier) :
    identifiers (t :: ts) = (t.lexeme, t.position) :: identifiers ts := by
  rw [identifiers, List.filter_cons_of_pos identifier, List.map_cons]
  rfl

theorem identifiers_cons_neg {t : Token} (ts : List Token) (other : ¬ t.isIdentifier) :
    identifiers (t :: ts) = identifiers ts := by
  rw [identifiers, List.filter_cons_of_neg other]
  rfl

/-- The identifiers of the name, in order. -/
def occurrences (name : String) (ts : List Token) : List Token :=
  ts.filter fun t => t.isIdentifier && t.lexeme == name

/-- So many of the tokens are identifiers of the name, and the first of them stands there. -/
structure Counted (ts : List Token) (name : String) (count : Int) (first : Position) : Prop where
  count : count = (occurrences name ts).length
  first : (occurrences name ts).head?.map (·.position) = some first

theorem mem_occurrences {name : String} {ts : List Token} {t : Token} :
    t ∈ occurrences name ts ↔ t ∈ ts ∧ t.isIdentifier ∧ t.lexeme = name := by
  simp [occurrences]

theorem occurrences_append (name : String) (ts us : List Token) :
    occurrences name (ts ++ us) = occurrences name ts ++ occurrences name us :=
  List.filter_append ..

theorem occurrences_eq_nil_iff {name : String} {ts : List Token} :
    occurrences name ts = [] ↔ ∀ t ∈ ts, t.isIdentifier → t.lexeme ≠ name := by
  simp [occurrences]

namespace Counted

variable {ts us : List Token} {name : String} {count count' : Int} {first first' : Position}

theorem occurs (h : Counted ts name count first) : ∃ t ∈ ts, t.isIdentifier ∧ t.lexeme = name := by
  obtain ⟨t, head, -⟩ := Option.map_eq_some_iff.1 h.first
  exact ⟨t, mem_occurrences.1 (List.mem_of_head? head)⟩

theorem unique (h : Counted ts name count first) (h' : Counted ts name count' first') :
    count = count' ∧ first = first' :=
  ⟨h.count.trans h'.count.symm, Option.some.inj (h.first.symm.trans h'.first)⟩

/-- Tokens that follow add to the count. -/
theorem append (h : Counted ts name count first) (us : List Token) :
    Counted (ts ++ us) name (count + (occurrences name us).length) first := by
  obtain ⟨t, head, place⟩ := Option.map_eq_some_iff.1 h.first
  constructor
  · rw [occurrences_append, List.length_append, h.count]
    exact (Int.natCast_add _ _).symm
  · rw [occurrences_append, List.head?_append, head]
    exact congrArg some place

/-- Tokens before, of other names, change nothing. -/
theorem of_append_left (h : Counted us name count first) (none : occurrences name ts = []) :
    Counted (ts ++ us) name count first := by
  constructor
  · rw [occurrences_append, none]
    exact h.count
  · rw [occurrences_append, none]
    exact h.first

theorem singleton {t : Token} (identifier : t.isIdentifier) :
    Counted [t] t.lexeme 1 t.position := by
  have only : occurrences t.lexeme [t] = [t] := by simp [occurrences, identifier]
  exact ⟨by rw [only]; rfl, by rw [only]; rfl⟩

end Counted

/-! ## Tallies of tokens -/

namespace Tally

/-- The tally has one entry for each name among the identifiers, and each entry counts them. -/
structure Of (t : Tally) (ts : List Token) : Prop where
  distinct : (t.map (·.name)).Nodup
  counted : ∀ s ∈ t, Counted ts s.name s.count s.first
  named : ∀ x ∈ ts, x.isIdentifier → x.lexeme ∈ t.map (·.name)

/-- Recording adds to the entry of the name, or makes one. -/
theorem record_cases (t : Tally) (name : String) (p : Position) :
    (name ∉ t.map (·.name) ∧ t.record name p = t ++ [⟨name, 1, p⟩]) ∨
      ∃ earlier s later, t = earlier ++ s :: later ∧ s.name = name ∧
        t.record name p = earlier ++ { s with count := s.count + 1 } :: later := by
  induction t with
  | nil => exact .inl ⟨List.not_mem_nil, rfl⟩
  | cons s t ih =>
    rw [record]
    by_cases same : s.name = name
    · exact .inr ⟨[], s, t, rfl, same, if_pos same⟩
    · rw [if_neg same]
      rcases ih with ⟨absent, added⟩ | ⟨earlier, e, later, rfl, named, counted⟩
      · refine .inl ⟨?_, by rw [added]; rfl⟩
        rw [List.map_cons, List.mem_cons, not_or]
        exact ⟨Ne.symm same, absent⟩
      · exact .inr ⟨s :: earlier, e, later, rfl, named, by rw [counted]; rfl⟩

namespace Of

theorem nil : Of [] [] :=
  ⟨List.nodup_nil, fun _ mem => absurd mem List.not_mem_nil, fun _ mem => absurd mem List.not_mem_nil⟩

variable {s t : Tally} {ts us : List Token}

theorem mem_names_iff (h : Of t ts) {name : String} :
    name ∈ t.map (·.name) ↔ ∃ x ∈ ts, x.isIdentifier ∧ x.lexeme = name := by
  constructor
  · intro mem
    obtain ⟨e, member, rfl⟩ := List.mem_map.1 mem
    exact (h.counted e member).occurs
  · rintro ⟨x, mem, identifier, rfl⟩
    exact h.named x mem identifier

theorem occurrences_eq_nil (h : Of t ts) {name : String} (absent : name ∉ t.map (·.name)) :
    occurrences name ts = [] :=
  occurrences_eq_nil_iff.2 fun x mem identifier same => absent (same ▸ h.named x mem identifier)

/-- The entries are those that count the tokens. -/
theorem mem_iff (h : Of t ts) {e : RawSymbol} : e ∈ t ↔ Counted ts e.name e.count e.first := by
  constructor
  · exact h.counted e
  · intro counted
    obtain ⟨x, mem, identifier, same⟩ := counted.occurs
    obtain ⟨e', mem', named⟩ := List.mem_map.1 (h.named x mem identifier)
    have counted' := h.counted e' mem'
    rw [named, same] at counted'
    obtain ⟨count, first⟩ := counted.unique counted'
    obtain ⟨name, n, p⟩ := e
    obtain ⟨name', n', p'⟩ := e'
    obtain rfl : name' = name := named.trans same
    obtain rfl : n = n' := count
    obtain rfl : p = p' := first
    exact mem'

theorem eq_of_name_eq (h : Of t ts) {e e' : RawSymbol} (mem : e ∈ t) (mem' : e' ∈ t)
    (same : e.name = e'.name) : e = e' :=
  List.inj_on_of_nodup_map h.distinct mem mem' same

/-- The order in which the entries stand does not matter. -/
theorem perm (h : Of t ts) (same : t.Perm s) : Of s ts where
  distinct := (same.map _).nodup_iff.1 h.distinct
  counted e mem := h.counted e (same.mem_iff.2 mem)
  named x mem identifier := (same.map _).mem_iff.1 (h.named x mem identifier)

/-- Tokens of other kinds are not counted. -/
theorem concat_other (h : Of t ts) {x : Token} (other : ¬ x.isIdentifier) : Of t (ts ++ [x]) := by
  have none (name : String) : occurrences name [x] = [] := by simp [occurrences, other]
  refine ⟨h.distinct, fun e mem => ?_, fun y mem identifier => ?_⟩
  · have counted := (h.counted e mem).append [x]
    rwa [none, List.length_nil, Int.natCast_zero, Int.add_zero] at counted
  · rcases List.mem_append.1 mem with mem | mem
    · exact h.named y mem identifier
    · obtain rfl := List.mem_singleton.1 mem
      exact absurd identifier other

/-- An identifier is counted under its name. -/
theorem record (h : Of t ts) {x : Token} (identifier : x.isIdentifier) :
    Of (t.record x.lexeme x.position) (ts ++ [x]) := by
  have other {e : RawSymbol} (mem : e ∈ t) (differs : x.lexeme ≠ e.name) :
      Counted (ts ++ [x]) e.name e.count e.first := by
    have counted := (h.counted e mem).append [x]
    have none : occurrences e.name [x] = [] := by simp [occurrences, differs]
    rwa [none, List.length_nil, Int.natCast_zero, Int.add_zero] at counted
  rcases t.record_cases x.lexeme x.position with
    ⟨absent, added⟩ | ⟨earlier, s, later, rfl, named, counted⟩
  · rw [added]
    refine ⟨?_, fun e mem => ?_, fun y mem identifier' => ?_⟩
    · rw [List.map_append, List.map_singleton, List.nodup_middle, List.append_nil]
      exact List.nodup_cons.2 ⟨absent, h.distinct⟩
    · rcases List.mem_append.1 mem with mem | mem
      · exact other mem fun same => absent (same ▸ List.mem_map_of_mem mem)
      · obtain rfl := List.mem_singleton.1 mem
        exact (Counted.singleton identifier).of_append_left (h.occurrences_eq_nil absent)
    · rw [List.map_append]
      rcases List.mem_append.1 mem with mem | mem
      · exact List.mem_append_left _ (h.named y mem identifier')
      · obtain rfl := List.mem_singleton.1 mem
        exact List.mem_append_right _ List.mem_cons_self
  · have names : (earlier ++ { s with count := s.count + 1 } :: later).map (·.name)
        = (earlier ++ s :: later).map (·.name) := by simp
    have apart : s.name ∉ (earlier ++ later).map (·.name) := by
      have distinct := h.distinct
      rw [List.map_append, List.map_cons, List.nodup_middle, ← List.map_append] at distinct
      exact (List.nodup_cons.1 distinct).1
    rw [counted]
    refine ⟨by rw [names]; exact h.distinct, fun e mem => ?_, fun y mem identifier' => ?_⟩
    · have mem : e = { s with count := s.count + 1 } ∨ e ∈ earlier ++ later := by
        simpa [or_left_comm] using mem
      rcases mem with rfl | mem
      · have again := (h.counted s (by simp)).append [x]
        have one : occurrences s.name [x] = [x] := by simp [occurrences, identifier, named]
        rwa [one] at again
      · have member : e ∈ earlier ++ s :: later := by
          rw [List.mem_append] at mem ⊢
          exact mem.imp_right (List.mem_cons_of_mem s)
        exact other member fun same => apart (named.trans same ▸ List.mem_map_of_mem mem)
    · rw [names]
      rcases List.mem_append.1 mem with mem | mem
      · exact h.named y mem identifier'
      · obtain rfl := List.mem_singleton.1 mem
        rw [← named]
        exact List.mem_map_of_mem (List.mem_append_right _ List.mem_cons_self)

/-- So are those of a run of tokens. -/
theorem recordAll (h : Of t ts) (us : List Token) :
    Of (t.recordAll (identifiers us)) (ts ++ us) := by
  induction us generalizing t ts with
  | nil => rwa [List.append_nil]
  | cons x us ih =>
    rw [List.append_cons]
    by_cases identifier : x.isIdentifier
    · rw [identifiers_cons_pos us identifier]
      exact ih (h.record identifier)
    · rw [identifiers_cons_neg us identifier]
      exact ih (h.concat_other identifier)

/-! ## Looking up -/

theorem find?_eq_some (h : Of t ts) {e : RawSymbol} (mem : e ∈ t) : t.find? e.name = some e := by
  unfold Tally.find?
  cases found : t.reverse.find? (·.name == e.name) with
  | none =>
    have differs := List.find?_eq_none.1 found e (List.mem_reverse.2 mem)
    exact absurd BEq.rfl differs
  | some e' =>
    have mem' : e' ∈ t := List.mem_reverse.1 (List.mem_of_find?_eq_some found)
    have same := List.find?_some found
    rw [h.eq_of_name_eq mem' mem (beq_iff_eq.1 same)]

theorem find?_eq_none {name : String} (absent : name ∉ t.map (·.name)) : t.find? name = none := by
  refine List.find?_eq_none.2 fun e mem same => absent ?_
  exact List.mem_map.2 ⟨e, List.mem_reverse.1 mem, beq_iff_eq.1 same⟩

end Of

/-! ## Sorted tallies -/

/-- The name comes first: letters are compared without case, and only then as they are. -/
def Precedes (m n : String) : Prop := caseless m < caseless n ∨ caseless m = caseless n ∧ m < n

theorem Precedes.trans {l m n : String} (h : Precedes l m) (h' : Precedes m n) : Precedes l n := by
  rcases h with less | ⟨same, less⟩ <;> rcases h' with less' | ⟨same', less'⟩
  · exact .inl (less.trans less')
  · exact .inl (same' ▸ less)
  · exact .inl (same ▸ less')
  · exact .inr ⟨same.trans same', less.trans less'⟩

theorem precedes_trichotomy (m n : String) : Precedes m n ∨ m = n ∨ Precedes n m := by
  rcases lt_trichotomy (caseless m) (caseless n) with less | same | less
  · exact .inl (.inl less)
  · rcases lt_trichotomy m n with less | eq | less
    · exact .inl (.inr ⟨same, less⟩)
    · exact .inr (.inl eq)
    · exact .inr (.inr (.inr ⟨same.symm, less⟩))
  · exact .inr (.inr (.inl less))

theorem before_iff {s t : RawSymbol} : before s t ↔ s.name = t.name ∨ Precedes s.name t.name := by
  unfold before Precedes
  by_cases same : caseless s.name = caseless t.name
  · simp [same, le_iff_eq_or_lt]
  · have differs : s.name ≠ t.name := fun eq => same (by rw [eq])
    simp [same, differs, le_iff_eq_or_lt]

theorem sorted_pairwise (t : Tally) : (sorted t).Pairwise fun r s => before r s := by
  refine List.pairwise_mergeSort (fun q r s h h' => ?_) (fun r s => ?_) t
  · rw [before_iff] at h h' ⊢
    rcases h with same | less
    · rwa [same]
    · rcases h' with same' | less'
      · exact .inr (same' ▸ less)
      · exact .inr (less.trans less')
  · rw [Bool.or_eq_true, before_iff, before_iff]
    rcases precedes_trichotomy r.name s.name with less | same | less
    · exact .inl (.inr less)
    · exact .inl (.inl same)
    · exact .inr (.inr less)

namespace Of

variable {s t : Tally} {ts us : List Token}

theorem sorted (h : Of t ts) : Of (sorted t) ts := h.perm (List.mergeSort_perm t before).symm

/-- Sorted, the names stand in strict order. -/
theorem sorted_strict (h : Of t ts) : ((Tally.sorted t).map (·.name)).Pairwise Precedes := by
  have both := (sorted_pairwise t).and (List.pairwise_map.1 h.sorted.distinct)
  rw [List.pairwise_map]
  exact both.imp fun pair => (before_iff.1 pair.1).resolve_left pair.2

end Of

/-! ## Merging -/

/-- The entries of `t` whose names `s` lacks. -/
def others (s t : Tally) : Tally := t.filter fun e => e.name ∉ s.map (·.name)

end Tally

/-! ## What segments enter -/

namespace Segment

/-- The segment gives no identifier, and enters nothing into the tally. -/
structure Nameless (s : Segment) : Prop where
  entry : s.entry = none
  token : ∀ name, s.token ≠ some (.identifier, name)

/-- The segment enters into the tally the identifier that it gives, and nothing else. -/
def Enters (s : Segment) : Prop :=
  ∀ name, s.entry = some name ↔ s.token = some (.identifier, name)

namespace Nameless

variable {s : Segment}

theorem of_none (entry : s.entry = none) (token : s.token = none) : s.Nameless :=
  ⟨entry, by simp [token]⟩

theorem of_kind {kind : TokenKind} {text : String} (entry : s.entry = none)
    (token : s.token = some (kind, text)) (other : kind ≠ .identifier) : s.Nameless :=
  ⟨entry, by simp [token, other]⟩

theorem enters (h : s.Nameless) : s.Enters := by
  intro name
  simp [h.entry, h.token name]

theorem lineComment (cs : List Char) : (Segment.lineComment cs).Nameless := of_none rfl rfl

theorem blockComment (cs : List Char) : (Segment.blockComment cs).Nameless := by
  unfold Segment.blockComment
  split <;> exact of_none rfl rfl

theorem string (cs : List Char) : (Segment.string cs).Nameless := by
  simp only [Segment.string]
  split
  · exact of_kind rfl rfl (by decide)
  · exact of_none rfl rfl

theorem number (cs : List Char) : (Segment.number cs).Nameless := by
  simp only [Segment.number]
  split <;> exact of_kind rfl rfl (by decide)

theorem symbol (sign : String) (cs : List Char) : (Segment.symbol sign cs).Nameless := by
  simp only [Segment.symbol]
  split
  · exact of_kind rfl rfl (by decide)
  split
  · exact of_kind rfl rfl (by decide)
  split
  · exact of_kind rfl rfl (by decide)
  · exact of_none rfl rfl

end Nameless

/-- A word is entered if it is not reserved, and is an identifier only then. -/
theorem word_enters (cs : List Char) : (word cs).Enters := by
  intro name
  simp only [word]
  split <;> simp

/-- Only the reader of words gives identifiers. -/
theorem nameless_or_word (cs : List Char) : (next cs).Nameless ∨ next cs = word cs := by
  cases cs with
  | nil => exact .inl (.of_none rfl rfl)
  | cons c r =>
    rw [next]
    split
    · exact .inl (.of_none rfl rfl)
    split
    · exact .inl (.lineComment _)
    split
    · exact .inl (.blockComment _)
    split
    · exact .inl (.string _)
    split
    · exact .inl (.number _)
    split
    · exact .inr rfl
    · exact .inl (.symbol _ _)

theorem next_enters (cs : List Char) : (next cs).Enters := by
  rcases nameless_or_word cs with nameless | isWord
  · exact nameless.enters
  · exact isWord ▸ word_enters cs

end Segment

theorem segments_enter (p : Position) (cs : List Char) :
    ∀ s ∈ segments p cs, s.segment.Enters := by
  intro s mem
  obtain ⟨c, r, next⟩ := exists_next_of_mem mem
  exact next ▸ Segment.next_enters (c :: r)

/-- What segments enter are the identifiers among their tokens. -/
theorem filterMap_occurrence {ps : List Placed} (enter : ∀ p ∈ ps, p.segment.Enters) :
    ps.filterMap (·.occurrence?) = identifiers (ps.filterMap (·.token?)) := by
  induction ps with
  | nil => rfl
  | cons p ps ih =>
    obtain ⟨head, tail⟩ := List.forall_mem_cons.1 enter
    obtain ⟨⟨size, fault, token, entry⟩, position⟩ := p
    rw [List.filterMap_cons, List.filterMap_cons, ih tail]
    cases entry with
    | some name =>
      obtain rfl : token = some (.identifier, name) := (head name).1 rfl
      have identifier : Token.isIdentifier ⟨.identifier, name, position⟩ := rfl
      exact (identifiers_cons_pos _ identifier).symm
    | none =>
      cases token with
      | none => rfl
      | some given =>
        refine (identifiers_cons_neg _ fun identifier => ?_).symm
        obtain ⟨kind, name⟩ := given
        obtain rfl : kind = .identifier := beq_iff_eq.1 identifier
        simpa using (head name).2 rfl

theorem Lexer.tally_take (l : Lexer) {ps : List Placed} (enter : ∀ p ∈ ps, p.segment.Enters) :
    (l.take ps).tally = l.tally.recordAll (identifiers (ps.filterMap (·.token?))) :=
  congrArg l.tally.recordAll (filterMap_occurrence enter)

theorem lex_tally (source : String) :
    (lex source).tally = Tally.recordAll [] (identifiers (tokenize source).tokens) :=
  (Lexer.ofText source).tally_take (segments_enter .start source.toList)

theorem tokenize_symbols (source : String) :
    (tokenize source).symbols
      = (Tally.recordAll [] (identifiers (tokenize source).tokens)).sorted :=
  congrArg Tally.sorted (lex_tally source)

/-- The symbols of a text are the sorted tally of its tokens. -/
theorem tokenize_tally (source : String) :
    Tally.Of (tokenize source).symbols (tokenize source).tokens := by
  rw [tokenize_symbols]
  exact (Tally.Of.nil.recordAll (tokenize source).tokens).sorted

end MiniC
