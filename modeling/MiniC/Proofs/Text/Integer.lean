/-
  MiniC.Proofs.Text.Integer — which texts write an integer, and which one.

  The digits of an integer stand in groups, with one underscore between any two groups (`Spells`);
  before them may stand a sign (`Signed`), and around all that blanks (`Writes`). A reader that goes
  from character to character accepts just that. A digit is no blank, so that the blanks around an
  integer are told from it.

  Proved:
  - `digits?_eq_some_iff`: the digits that are read are those that the groups spell.
  - `trim_eq`: trimming takes away what stands around a text that starts and ends with none of it.
  - `integer?_eq_some_iff`: the integer that is read is the one that is written.
-/

import MiniC.Text.Integer
import Mathlib.Data.List.TakeWhile

namespace MiniC.Text

/-! ## Digits -/

/-- The characters write the digits `ds`, in groups with an underscore between any two. -/
def Spells (cs : List Char) (ds : List Nat) : Prop :=
  ∃ groups : List (List Char), groups ≠ [] ∧ (∀ g ∈ groups, g ≠ []) ∧
    groups.flatten.map digit? = ds.map some ∧ cs = ['_'].intercalate groups

variable {c : Char} {d : Nat} {cs : List Char} {ds : List Nat}

namespace Spells

theorem single (told : digit? c = some d) : Spells [c] [d] :=
  ⟨[[c]], by simp, by simp, by simp [told], by simp⟩

/-- A digit is put before the first group. -/
theorem cons (told : digit? c = some d) (rest : Spells cs ds) : Spells (c :: cs) (d :: ds) := by
  obtain ⟨groups, some, full, digits, rfl⟩ := rest
  cases groups with
  | nil => exact absurd rfl some
  | cons g gs =>
    refine ⟨(c :: g) :: gs, by simp, ?_, by simpa [told] using digits, ?_⟩
    · simpa using (List.forall_mem_cons.1 full).2
    · cases gs <;> simp

/-- A digit makes up a group of its own before the others. -/
theorem underscore (told : digit? c = some d) (rest : Spells cs ds) :
    Spells (c :: '_' :: cs) (d :: ds) := by
  obtain ⟨groups, some, full, digits, rfl⟩ := rest
  refine ⟨[c] :: groups, by simp, ?_, by simpa [told] using digits, ?_⟩
  · simpa using full
  · simp [List.intercalate_cons_of_ne_nil some]

/-- There is a first digit, and it is the only one, or the others are spelt by what follows it or
what follows the underscore behind it. -/
theorem first (spelt : Spells cs ds) :
    ∃ c d ds', digit? c = some d ∧ ds = d :: ds' ∧
      (cs = [c] ∧ ds' = [] ∨ ∃ r, Spells r ds' ∧ (cs = c :: r ∨ cs = c :: '_' :: r)) := by
  obtain ⟨groups, some, full, digits, rfl⟩ := spelt
  cases groups with
  | nil => exact absurd rfl some
  | cons g gs =>
    obtain ⟨nonempty, others⟩ := List.forall_mem_cons.1 full
    cases g with
    | nil => exact absurd rfl nonempty
    | cons c g =>
      cases ds with
      | nil => simp at digits
      | cons d ds =>
        simp only [List.flatten_cons, List.cons_append, List.map_cons, List.cons.injEq] at digits
        refine ⟨c, d, ds, digits.1, rfl, ?_⟩
        by_cases alone : g = []
        · subst alone
          by_cases last : gs = []
          · subst last
            exact .inl ⟨by simp, by simpa using digits.2.symm⟩
          · exact .inr ⟨_, ⟨gs, last, others, digits.2, rfl⟩,
              .inr (by simp [List.intercalate_cons_of_ne_nil last])⟩
        · refine .inr ⟨_, ⟨g :: gs, by simp, List.forall_mem_cons.2 ⟨alone, others⟩, digits.2, rfl⟩,
            .inl ?_⟩
          cases gs <;> simp

/-- Nothing but digits and underscores spells digits. -/
theorem characters (spelt : Spells cs ds) : ∀ c ∈ cs, c = '_' ∨ ∃ d, digit? c = some d := by
  induction ds generalizing cs with
  | nil =>
    obtain ⟨c, d, ds', -, ⟨⟩, -⟩ := spelt.first
  | cons d ds ih =>
    obtain ⟨c, _, _, told, ⟨⟩, ⟨rfl, -⟩ | ⟨r, rest, rfl | rfl⟩⟩ := spelt.first
    · simp [told]
    · simpa [told] using ih rest
    · simpa [told] using ih rest

theorem exists_head (spelt : Spells cs ds) : ∃ c d r, cs = c :: r ∧ digit? c = some d := by
  obtain ⟨c, d, _, told, -, ⟨rfl, -⟩ | ⟨r, -, rfl | rfl⟩⟩ := spelt.first
  · exact ⟨c, d, [], rfl, told⟩
  · exact ⟨c, d, r, rfl, told⟩
  · exact ⟨c, d, '_' :: r, rfl, told⟩

end Spells

theorem digits?_cons {r : List Char} (ne : r ≠ []) (solid : r.head? ≠ some '_') :
    digits? (c :: r) = (digit? c).bind fun d => (digits? r).map (d :: ·) := by
  rw [digits?]
  · cases digit? c <;> cases digits? r <;> rfl
  · exact ne
  · rintro r' rfl
    exact solid rfl

theorem digits?_underscore (c : Char) (r : List Char) :
    digits? (c :: '_' :: r) = (digit? c).bind fun d => (digits? r).map (d :: ·) := by
  rw [digits?]
  cases digit? c <;> cases digits? r <;> rfl

/-- The digits that are read are those that the groups spell. -/
theorem digits?_eq_some_iff : digits? cs = some ds ↔ Spells cs ds := by
  constructor
  · intro read
    fun_induction digits? cs generalizing ds with
    | case1 => exact nomatch read
    | case2 c =>
      obtain ⟨d, told, rfl⟩ := Option.map_eq_some_iff.1 read
      exact .single told
    | case3 c r ih =>
      simp only [bind, Option.bind_eq_some_iff, pure, Option.some.injEq] at read
      obtain ⟨d, told, ds', rest, rfl⟩ := read
      exact .underscore told (ih rest)
    | case4 c r _ _ ih =>
      simp only [bind, Option.bind_eq_some_iff, pure, Option.some.injEq] at read
      obtain ⟨d, told, ds', rest, rfl⟩ := read
      exact .cons told (ih rest)
  · intro spelt
    induction ds generalizing cs with
    | nil =>
      obtain ⟨c, d, ds', -, ⟨⟩, -⟩ := spelt.first
    | cons d ds ih =>
      obtain ⟨c, _, _, told, ⟨⟩, ⟨rfl, rfl⟩ | ⟨r, rest, rfl | rfl⟩⟩ := spelt.first
      · simp [digits?, told]
      · obtain ⟨c', d', r', rfl, digit⟩ := rest.exists_head
        have solid : c' ≠ '_' := by
          rintro rfl
          exact nomatch digit
        rw [digits?_cons (by simp) (by simpa using solid), told, ih rest]
        rfl
      · rw [digits?_underscore, told, ih rest]
        rfl

/-! ## Signs -/

/-- The characters write the integer `n` with digits that are not too many, after a sign or without
one. -/
inductive Signed : List Char → Int → Prop
  | bare {cs : List Char} {ds : List Nat} (spelt : Spells cs ds) (few : ds.length ≤ mostDigits) :
    Signed cs (ofDigits ds)
  | plus {cs : List Char} {ds : List Nat} (spelt : Spells cs ds) (few : ds.length ≤ mostDigits) :
    Signed ('+' :: cs) (ofDigits ds)
  | minus {cs : List Char} {ds : List Nat} (spelt : Spells cs ds) (few : ds.length ≤ mostDigits) :
    Signed ('-' :: cs) (-(ofDigits ds : Int))

theorem natural?_eq_some_iff {n : Nat} :
    natural? cs = some n ↔ ∃ ds, Spells cs ds ∧ ds.length ≤ mostDigits ∧ n = ofDigits ds := by
  unfold natural?
  simp only [← digits?_eq_some_iff]
  cases digits? cs with
  | none => simp
  | some ds => simp [eq_comm]

/-- The integer that is read after its sign is the one that is written. -/
theorem signed?_eq_some_iff {n : Int} : signed? cs = some n ↔ Signed cs n := by
  constructor
  · intro read
    unfold signed? at read
    split at read
    · obtain ⟨n, told, rfl⟩ := Option.map_eq_some_iff.1 read
      obtain ⟨ds, spelt, few, rfl⟩ := natural?_eq_some_iff.1 told
      exact .plus spelt few
    · obtain ⟨_, lifted, rfl⟩ := Option.map_eq_some_iff.1 read
      obtain ⟨n, told, ⟨⟩⟩ := Option.bind_eq_some_iff.1 lifted
      obtain ⟨ds, spelt, few, rfl⟩ := natural?_eq_some_iff.1 told
      exact .minus spelt few
    · obtain ⟨n, told, rfl⟩ := Option.map_eq_some_iff.1 read
      obtain ⟨ds, spelt, few, rfl⟩ := natural?_eq_some_iff.1 told
      exact .bare spelt few
  · rintro (⟨spelt, few⟩ | ⟨spelt, few⟩ | ⟨spelt, few⟩) <;>
      have told := natural?_eq_some_iff.2 ⟨_, spelt, few, rfl⟩
    · obtain ⟨c, d, r, rfl, digit⟩ := spelt.exists_head
      rw [signed?, told]
      · rfl
      · rintro r' ⟨⟩
        exact nomatch digit
      · rintro r' ⟨⟩
        exact nomatch digit
    · rw [signed?, told]
      rfl
    · rw [signed?, told]
      rfl

/-! ## Blanks around it -/

/-- Trimming takes away what stands around a text that has none of it. -/
theorem trim_eq {p : Char → Bool} {before body after : List Char} (front : ∀ c ∈ before, p c)
    (solid : ∀ c ∈ body, ¬ p c) (back : ∀ c ∈ after, p c) :
    trim p (before ++ body ++ after) = body := by
  have backward : ∀ c ∈ after.reverse, p c := by simpa using back
  unfold trim
  rw [List.append_assoc, List.dropWhile_append_of_pos front]
  cases body with
  | nil =>
    have none : after.dropWhile p = [] := List.dropWhile_eq_nil_iff.2 back
    simp [none]
  | cons c r =>
    have first : ¬ p c := solid c List.mem_cons_self
    have kept : ((c :: r).reverse.dropWhile p).reverse = c :: r := by
      rw [List.reverse_eq_iff, List.dropWhile_eq_self_iff]
      intro some
      exact solid _ (List.mem_reverse.1 (List.getElem_mem _))
    rw [List.cons_append, List.dropWhile_cons_of_neg first, ← List.cons_append,
      List.reverse_append, List.dropWhile_append_of_pos backward, kept]

/-- What trimming takes away stands at the two ends. -/
theorem exists_trim (p : Char → Bool) (cs : List Char) :
    ∃ before after, cs = before ++ trim p cs ++ after ∧
      (∀ c ∈ before, p c) ∧ ∀ c ∈ after, p c := by
  have ends (l : List Char) : ∀ c ∈ l.takeWhile p, p c := fun _ => List.mem_takeWhile_imp
  refine ⟨cs.takeWhile p, ((cs.dropWhile p).reverse.takeWhile p).reverse, ?_, ends cs, ?_⟩
  · have last : trim p cs ++ ((cs.dropWhile p).reverse.takeWhile p).reverse = cs.dropWhile p := by
      unfold trim
      rw [← List.reverse_append, List.takeWhile_append_dropWhile, List.reverse_reverse]
    rw [List.append_assoc, last, List.takeWhile_append_dropWhile]
  · exact fun c mem => ends _ c (List.mem_reverse.1 mem)

/-- No digit is a blank. -/
theorem isIntegerBlank_digit (told : digit? c = some d) : ¬ isIntegerBlank c := by
  obtain ⟨z, found, -⟩ := Option.map_eq_some_iff.1 told
  have mem := List.mem_of_find?_eq_some found
  have within : z ≤ c.toNat ∧ c.toNat < z + 10 := by simpa using List.find?_some found
  have low : ∀ z ∈ zeros, 0x30 ≤ z := by decide
  have apart : ∀ z ∈ zeros, ∀ run ∈ blankRuns.list, z + 10 ≤ run.1 ∨ run.2 < z := by decide
  unfold isIntegerBlank
  split
  · intro blank
    have small : c.toNat ≤ 0x20 := by
      rcases Bool.or_eq_true_iff.1 blank with space | control
      · rw [beq_iff_eq.1 space]
        decide
      · simp at control
        omega
    have := low z mem
    omega
  · unfold isBlank
    rw [Runs.holds_iff]
    rintro ⟨run, held, first, last⟩
    have := apart z mem run held
    omega

/-- No character of a written integer is a blank. -/
theorem Signed.solid {n : Int} (written : Signed cs n) : ∀ c ∈ cs, ¬ isIntegerBlank c := by
  have solid {cs ds} (spelt : Spells cs ds) : ∀ c ∈ cs, ¬ isIntegerBlank c := by
    intro c mem
    rcases spelt.characters c mem with rfl | ⟨d, told⟩
    · decide
    · exact isIntegerBlank_digit told
  cases written with
  | bare spelt => exact solid spelt
  | plus spelt => exact List.forall_mem_cons.2 ⟨by decide, solid spelt⟩
  | minus spelt => exact List.forall_mem_cons.2 ⟨by decide, solid spelt⟩

/-- The text writes the integer `n`, with nothing but blanks around it. -/
def Writes (text : String) (n : Int) : Prop :=
  ∃ before body after, text.toList = before ++ body ++ after ∧ Signed body n ∧
    (∀ c ∈ before, isIntegerBlank c) ∧ ∀ c ∈ after, isIntegerBlank c

/-- The integer that is read is the one that is written. -/
theorem integer?_eq_some_iff {text : String} {n : Int} :
    integer? text = some n ↔ Writes text n := by
  unfold integer?
  rw [signed?_eq_some_iff]
  constructor
  · intro written
    obtain ⟨before, after, parts, front, back⟩ := exists_trim isIntegerBlank text.toList
    exact ⟨before, _, after, parts, written, front, back⟩
  · rintro ⟨before, body, after, parts, written, front, back⟩
    rw [parts, trim_eq front written.solid back]
    exact written

end MiniC.Text
