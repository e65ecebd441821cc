/-
  MiniC.Proofs.Text.Utf8 — the reader of UTF-8 reads what it should, and finds the first fault.

  The form of a text is that of its characters, one after another (`encode`). Bytes that are no form
  have a first fault, and what it is does not depend on a reader (`FirstFault`): take the most of
  the bytes that some text begins with. If no byte is left, the end is missing. Otherwise the next
  byte is one with which no text goes on, after whole characters or inside of one.

  The reader keeps what a character has begun with, and what is kept says which characters can still
  come (`Begun.Opens`). So from wherever it stands there is a text that begins with the bytes so far
  (`Stands.begins`), and a byte is refused only if no text goes on with it.

  Proved:
  - `readFrom_encode`: a text is read back from its form, whatever follows.
  - `Stands.step`: a byte takes the reader further, or is refused.
  - `decode_eq_ok_iff`: a text is read from its form and from no other bytes.
  - `decode_eq_error_iff`: from all others the fault is the first one.
-/

import MiniC.Text.Utf8
import Mathlib.Algebra.Group.Nat.Defs
import Mathlib.Data.List.Induction

namespace MiniC.Text.Utf8

/-! ## The form of a text -/

/-- The UTF-8 form of a text. -/
def encode (cs : List Char) : List UInt8 := cs.flatMap String.utf8EncodeChar

theorem encode_append (cs ds : List Char) : encode (cs ++ ds) = encode cs ++ encode ds :=
  List.flatMap_append

theorem encode_singleton (c : Char) : encode [c] = String.utf8EncodeChar c :=
  List.flatMap_singleton _ _

/-- The last `n` bytes of the form of a character with the number `v`, if it has more. -/
def trail : Nat → Nat → List UInt8
  | 0, _ => []
  | n + 1, v => UInt8.ofNat (v / 64 ^ n % 64 + 0x80) :: trail n v

section
variable {c : Char}

theorem encodeChar_one (below : c.toNat < 0x80) :
    String.utf8EncodeChar c = [UInt8.ofNat c.toNat] :=
  if_pos (Nat.le_of_lt_succ below)

theorem encodeChar_two (above : 0x80 ≤ c.toNat) (below : c.toNat < 0x800) :
    String.utf8EncodeChar c = UInt8.ofNat (c.toNat / 64 + 0xC0) :: trail 1 c.toNat := by
  have number : c.val.toNat = c.toNat := rfl
  have lead : c.toNat / 64 % 32 = c.toNat / 64 := by omega
  simp only [String.utf8EncodeChar, number, trail, lead, Nat.pow_zero, Nat.div_one]
  rw [if_neg (by omega), if_pos (by omega)]

theorem encodeChar_three (above : 0x800 ≤ c.toNat) (below : c.toNat < 0x10000) :
    String.utf8EncodeChar c = UInt8.ofNat (c.toNat / 4096 + 0xE0) :: trail 2 c.toNat := by
  have number : c.val.toNat = c.toNat := rfl
  have lead : c.toNat / 4096 % 16 = c.toNat / 4096 := by omega
  simp only [String.utf8EncodeChar, number, trail, lead, Nat.pow_zero, Nat.pow_one, Nat.div_one]
  rw [if_neg (by omega), if_neg (by omega), if_pos (by omega)]

theorem encodeChar_four (above : 0x10000 ≤ c.toNat) :
    String.utf8EncodeChar c = UInt8.ofNat (c.toNat / 262144 + 0xF0) :: trail 3 c.toNat := by
  have number : c.val.toNat = c.toNat := rfl
  have valid : c.toNat.isValidChar := c.valid
  have lead : c.toNat / 262144 % 8 = c.toNat / 262144 := by
    simp only [Nat.isValidChar] at valid
    omega
  simp only [String.utf8EncodeChar, number, trail, lead, Nat.pow_zero, Nat.pow_one, Nat.div_one,
    Nat.reducePow]
  rw [if_neg (by omega), if_neg (by omega), if_neg (by omega)]

end

/-! ## The rows -/

namespace Begun

/-- What the first byte of a character of two, three or four bytes begins; `x` is what the byte
itself amounts to. -/
def two (x : Nat) : Begun := ⟨x, 0, 0x80, 0xBF⟩

def three (x : Nat) : Begun := ⟨x, 1, if x = 0 then 0xA0 else 0x80, if x = 0xD then 0x9F else 0xBF⟩

def four (x : Nat) : Begun := ⟨x, 2, if x = 0 then 0x90 else 0x80, if x = 4 then 0x8F else 0xBF⟩

/-- A character with the number `v` goes on with what has been begun. -/
structure Admits (g : Begun) (v : Nat) : Prop where
  value : v / 64 ^ (g.owed + 1) = g.value
  low : g.low ≤ v / 64 ^ g.owed % 64 + 0x80
  high : v / 64 ^ g.owed % 64 + 0x80 ≤ g.high

end Begun

theorem begin?_two : ∀ x < 32, 2 ≤ x → begin? (x + 0xC0) = some (.inr (.two x)) := by decide

theorem begin?_three : ∀ x < 16, begin? (x + 0xE0) = some (.inr (.three x)) := by decide

theorem begin?_four : ∀ x < 5, begin? (x + 0xF0) = some (.inr (.four x)) := by decide

theorem begin?_eq_some {b : Nat} {s : Char ⊕ Begun} (h : begin? b = some s) :
    b < 0x80 ∧ s = .inl (Char.ofNat b) ∨
    (∃ x < 32, 2 ≤ x ∧ b = x + 0xC0 ∧ s = .inr (.two x)) ∨
    (∃ x < 16, b = x + 0xE0 ∧ s = .inr (.three x)) ∨
    ∃ x < 5, b = x + 0xF0 ∧ s = .inr (.four x) := by
  rcases Nat.lt_or_ge b 0x80 with one | more
  · rw [begin?, if_pos one] at h
    exact .inl ⟨one, (Option.some.inj h).symm⟩
  rcases Nat.lt_or_ge b 0xC2 with no | more
  · rw [begin?, if_neg (by omega), if_pos no] at h
    exact absurd h nofun
  rcases Nat.lt_or_ge b 0xE0 with two | more
  · obtain ⟨x, rfl⟩ := Nat.exists_eq_add_of_le' (show 0xC0 ≤ b by omega)
    rw [begin?_two x (by omega) (by omega)] at h
    exact .inr (.inl ⟨x, by omega, by omega, rfl, (Option.some.inj h).symm⟩)
  rcases Nat.lt_or_ge b 0xF0 with three | more
  · obtain ⟨x, rfl⟩ := Nat.exists_eq_add_of_le' more
    rw [begin?_three x (by omega)] at h
    exact .inr (.inr (.inl ⟨x, by omega, rfl, (Option.some.inj h).symm⟩))
  rcases Nat.lt_or_ge b 0xF5 with four | more
  · obtain ⟨x, rfl⟩ := Nat.exists_eq_add_of_le' more
    rw [begin?_four x (by omega)] at h
    exact .inr (.inr (.inr ⟨x, by omega, rfl, (Option.some.inj h).symm⟩))
  · have none : begin? b = none := by
      unfold begin?
      repeat rw [if_neg (by omega)]
    exact absurd (none.symm.trans h) nofun

/-! ## Reading the form of a character -/

theorem toNat_ofNat_of_isValidChar {n : Nat} (h : n.isValidChar) : (Char.ofNat n).toNat = n := by
  rw [Char.ofNat, dif_pos h]
  rfl

/-- The first byte of a character is the whole of it, or begins it. -/
theorem begin?_encodeChar (c : Char) :
    (∃ b, String.utf8EncodeChar c = [b] ∧ begin? b.toNat = some (.inl c)) ∨
      ∃ b g, String.utf8EncodeChar c = b :: trail (g.owed + 1) c.toNat ∧
        begin? b.toNat = some (.inr g) ∧ g.Admits c.toNat := by
  have valid : c.toNat.isValidChar := c.valid
  simp only [Nat.isValidChar] at valid
  by_cases one : c.toNat < 0x80
  · refine .inl ⟨_, encodeChar_one one, ?_⟩
    rw [UInt8.toNat_ofNat_of_lt' (show _ < 256 by omega), begin?, if_pos one, Char.ofNat_toNat]
  by_cases two : c.toNat < 0x800
  · refine .inr ⟨_, .two (c.toNat / 64), encodeChar_two (by omega) two, ?_, ?_⟩
    · rw [UInt8.toNat_ofNat_of_lt' (show _ < 256 by omega)]
      exact begin?_two _ (by omega) (by omega)
    · constructor <;> simp only [Begun.two, Nat.reduceAdd, Nat.reducePow] <;> omega
  by_cases three : c.toNat < 0x10000
  · refine .inr ⟨_, .three (c.toNat / 4096), encodeChar_three (by omega) three, ?_, ?_⟩
    · rw [UInt8.toNat_ofNat_of_lt' (show _ < 256 by omega)]
      exact begin?_three _ (by omega)
    · constructor <;> simp only [Begun.three, Nat.reduceAdd, Nat.reducePow] <;> split <;> omega
  · refine .inr ⟨_, .four (c.toNat / 262144), encodeChar_four (by omega), ?_, ?_⟩
    · rw [UInt8.toNat_ofNat_of_lt' (show _ < 256 by omega)]
      exact begin?_four _ (by omega)
    · constructor <;> simp only [Begun.four, Nat.reduceAdd, Nat.reducePow] <;> split <;> omega

theorem div_pow_succ (v n : Nat) : v / 64 ^ (n + 1) * 64 + v / 64 ^ n % 64 = v / 64 ^ n := by
  rw [Nat.pow_succ, ← Nat.div_div_eq_div_mul]
  omega

/-- The next byte of a character that goes on brings it to its end, or one byte nearer to it. -/
theorem Begun.Admits.continue? {g : Begun} {v : Nat} (h : g.Admits v) :
    g.continue? (v / 64 ^ g.owed % 64 + 0x80) =
      match g.owed with
      | 0 => some (.inl (Char.ofNat v))
      | n + 1 => some (.inr ⟨v / 64 ^ (n + 1), n, 0x80, 0xBF⟩) := by
  have amounts : g.value * 64 + (v / 64 ^ g.owed % 64 + 0x80 - 0x80) = v / 64 ^ g.owed := by
    rw [← h.value, Nat.add_sub_cancel]
    exact div_pow_succ v g.owed
  rw [Begun.continue?, if_pos ⟨h.low, h.high⟩, amounts]
  cases g.owed with
  | zero => simp
  | succ n => rfl

/-- From inside a character its remaining bytes are read to its end. -/
theorem readFrom_trail {g : Begun} {v : Nat} (h : g.Admits v) (r : List UInt8) :
    readFrom (some g) (trail (g.owed + 1) v ++ r) = (readFrom none r).map (Char.ofNat v :: ·) := by
  have byte := UInt8.toNat_ofNat_of_lt' (show v / 64 ^ g.owed % 64 + 0x80 < 256 by omega)
  have continued := h.continue?
  rw [trail, List.cons_append, readFrom, byte, continued]
  cases owed : g.owed with
  | zero => rfl
  | succ n =>
    have admits : Begun.Admits ⟨v / 64 ^ (n + 1), n, 0x80, 0xBF⟩ v := ⟨rfl, by simp, by simp; omega⟩
    exact readFrom_trail admits r
termination_by g.owed

/-- A text is read back from its form, and what follows is read behind it. -/
theorem readFrom_encode (cs : List Char) (r : List UInt8) :
    readFrom none (encode cs ++ r) = (readFrom none r).map (cs ++ ·) := by
  induction cs with
  | nil =>
    rw [show encode [] ++ r = r from rfl]
    cases readFrom none r <;> rfl
  | cons c cs ih =>
    have form : encode (c :: cs) ++ r = String.utf8EncodeChar c ++ (encode cs ++ r) := by
      rw [encode, List.flatMap_cons, List.append_assoc]
      rfl
    have first : readFrom none (encode (c :: cs) ++ r)
        = (readFrom none (encode cs ++ r)).map (c :: ·) := by
      rw [form]
      rcases begin?_encodeChar c with ⟨b, one, begun⟩ | ⟨b, g, more, begun, admits⟩
      · rw [one, List.singleton_append, readFrom, begun]
      · rw [more, List.cons_append, readFrom, begun]
        simp only
        rw [readFrom_trail admits, Char.ofNat_toNat]
    rw [first, ih]
    cases readFrom none r <;> rfl

theorem decode_encode (cs : List Char) : decode (encode cs) = .ok cs := by
  have read := readFrom_encode cs []
  rwa [List.append_nil, readFrom, Except.map, List.append_nil] at read

/-! ## Where the reader stands -/

namespace Begun

/-- The bytes `q` begin a character, and `g` is what they have begun: every number that goes on
with it is that of a character whose form starts with `q`. -/
structure Opens (g : Begun) (q : List UInt8) : Prop where
  low : 0x80 ≤ g.low
  between : g.low ≤ g.high
  high : g.high ≤ 0xBF
  form : ∀ v, g.Admits v →
    (Char.ofNat v).toNat = v ∧ String.utf8EncodeChar (Char.ofNat v) = q ++ trail (g.owed + 1) v
  read : ∀ r, readFrom none (q ++ r) = readFrom (some g) r

variable {g : Begun} {q : List UInt8} {b : UInt8} {x v : Nat}

theorem Admits.of_two (admits : (two x).Admits v) (above : 2 ≤ x) (below : x < 32) :
    v / 64 = x ∧ 0x80 ≤ v ∧ v < 0x800 := by
  obtain ⟨value, -, -⟩ := admits
  simp only [two, Nat.reduceAdd, Nat.reducePow] at value
  omega

theorem Admits.of_three (admits : (three x).Admits v) (below : x < 16) :
    v / 4096 = x ∧ 0x800 ≤ v ∧ v < 0x10000 ∧ v.isValidChar := by
  obtain ⟨value, low, high⟩ := admits
  simp only [three, Nat.reduceAdd, Nat.reducePow] at value low high
  simp only [Nat.isValidChar]
  split at low <;> split at high <;> omega

theorem Admits.of_four (admits : (four x).Admits v) (below : x < 5) :
    v / 262144 = x ∧ 0x10000 ≤ v ∧ v.isValidChar := by
  obtain ⟨value, low, high⟩ := admits
  simp only [four, Nat.reduceAdd, Nat.reducePow] at value low high
  simp only [Nat.isValidChar]
  split at low <;> split at high <;> omega

theorem bounds_of_begin {n : Nat} (begun : begin? n = some (.inr g)) :
    0x80 ≤ g.low ∧ g.low ≤ g.high ∧ g.high ≤ 0xBF := by
  rcases begin?_eq_some begun with ⟨-, other⟩ | ⟨x, -, -, -, row⟩ | ⟨x, -, -, row⟩ | ⟨x, -, -, row⟩
  · exact absurd other nofun
  · obtain rfl := Sum.inr.inj row
    simp [two]
  · obtain rfl := Sum.inr.inj row
    simp only [three]
    split <;> split <;> omega
  · obtain rfl := Sum.inr.inj row
    simp only [four]
    split <;> split <;> omega

/-- A first byte that is not the whole of a character begins one. -/
theorem opens_begin (begun : begin? b.toNat = some (.inr g)) : g.Opens [b] := by
  obtain ⟨low, between, high⟩ := bounds_of_begin begun
  have byte : b = UInt8.ofNat b.toNat := UInt8.ofNat_toNat.symm
  refine ⟨low, between, high, fun v admits => ?_, fun r => ?_⟩
  · rcases begin?_eq_some begun with ⟨-, other⟩ | ⟨x, below, above, lead, row⟩ |
      ⟨x, below, lead, row⟩ | ⟨x, below, lead, row⟩
    · exact absurd other nofun
    · obtain rfl := Sum.inr.inj row
      obtain ⟨value, atLeast, lessThan⟩ := admits.of_two above below
      have number := toNat_ofNat_of_isValidChar (n := v) (.inl (by omega))
      refine ⟨number, ?_⟩
      rw [encodeChar_two (by omega) (by omega), number, value, byte, lead]
      rfl
    · obtain rfl := Sum.inr.inj row
      obtain ⟨value, atLeast, lessThan, valid⟩ := admits.of_three below
      have number := toNat_ofNat_of_isValidChar valid
      refine ⟨number, ?_⟩
      rw [encodeChar_three (by omega) (by omega), number, value, byte, lead]
      rfl
    · obtain rfl := Sum.inr.inj row
      obtain ⟨value, atLeast, valid⟩ := admits.of_four below
      have number := toNat_ofNat_of_isValidChar valid
      refine ⟨number, ?_⟩
      rw [encodeChar_four (by omega), number, value, byte, lead]
      rfl
  · rw [List.singleton_append, readFrom, begun]

/-- A first byte that is the whole of a character is its form. -/
theorem encodeChar_of_begin {c : Char} (begun : begin? b.toNat = some (.inl c)) :
    String.utf8EncodeChar c = [b] := by
  rcases begin?_eq_some begun with ⟨one, whole⟩ | ⟨x, -, -, -, other⟩ | ⟨x, -, -, other⟩ |
    ⟨x, -, -, other⟩
  · obtain rfl := Sum.inl.inj whole
    have number := toNat_ofNat_of_isValidChar (n := b.toNat) (.inl (by omega))
    rw [encodeChar_one (number.symm ▸ one), number, UInt8.ofNat_toNat]
  all_goals exact absurd other nofun

/-- A number goes on with what has been begun as soon as it does so up to the next byte. -/
theorem Opens.admits (h : g.Opens q) {b : Nat} (low : g.low ≤ b) (high : b ≤ g.high)
    (value : v / 64 ^ g.owed = g.value * 64 + (b - 0x80)) :
    g.Admits v ∧ v / 64 ^ g.owed % 64 + 0x80 = b := by
  have above := h.low
  have below := h.high
  have next : v / 64 ^ g.owed % 64 + 0x80 = b := by omega
  have before : v / 64 ^ (g.owed + 1) = g.value := by
    rw [Nat.pow_succ, ← Nat.div_div_eq_div_mul]
    omega
  exact ⟨⟨before, next ▸ low, next ▸ high⟩, next⟩

/-- A byte that is accepted is the last of a character, or begins the character further. -/
theorem Opens.continue_char (h : g.Opens q) {c : Char}
    (continued : g.continue? b.toNat = some (.inl c)) : String.utf8EncodeChar c = q ++ [b] := by
  obtain ⟨value, owed, least, most⟩ := g
  rw [Begun.continue?] at continued
  split at continued
  · next bounds =>
    cases owed with
    | zero =>
      obtain rfl := Sum.inl.inj (Option.some.inj continued)
      obtain ⟨admits, next⟩ :=
        h.admits (v := value * 64 + (b.toNat - 0x80)) bounds.1 bounds.2 (by simp)
      rw [(h.form _ admits).2, trail, next, UInt8.ofNat_toNat]
      rfl
    | succ n => exact absurd continued nofun
  · exact absurd continued nofun

theorem Opens.continue_begun (h : g.Opens q) {g' : Begun}
    (continued : g.continue? b.toNat = some (.inr g')) : g'.Opens (q ++ [b]) := by
  have read (r : List UInt8) : readFrom none ((q ++ [b]) ++ r) = readFrom (some g') r := by
    rw [List.append_assoc, h.read, List.singleton_append, readFrom, continued]
  obtain ⟨value, owed, least, most⟩ := g
  rw [Begun.continue?] at continued
  split at continued
  · next bounds =>
    cases owed with
    | zero => exact absurd continued nofun
    | succ n =>
      obtain rfl := Sum.inr.inj (Option.some.inj continued)
      refine ⟨Nat.le_refl _, by simp, Nat.le_refl _, fun v admits => ?_, read⟩
      obtain ⟨admits, next⟩ := h.admits bounds.1 bounds.2 admits.value
      obtain ⟨number, form⟩ := h.form v admits
      refine ⟨number, ?_⟩
      rw [form, trail, next, UInt8.ofNat_toNat, List.append_assoc]
      rfl
  · exact absurd continued nofun

/-- What has been begun can be brought to an end. -/
theorem Opens.exists_char (h : g.Opens q) : ∃ c, q <+: String.utf8EncodeChar c := by
  obtain ⟨admits, -⟩ := h.admits (v := (g.value * 64 + (g.low - 0x80)) * 64 ^ g.owed)
    (Nat.le_refl _) h.between (Nat.mul_div_cancel _ (Nat.pow_pos (by decide)))
  exact ⟨_, _, (h.form _ admits).2.symm⟩

end Begun

/-! ## Beginnings of texts -/

/-- The bytes are the form of a text. -/
def IsForm (p : List UInt8) : Prop := ∃ cs, p = encode cs

/-- The form of some text begins with the bytes. -/
def Begins (p : List UInt8) : Prop := ∃ cs, p <+: encode cs

theorem IsForm.begins {p : List UInt8} (h : IsForm p) : Begins p := by
  obtain ⟨cs, rfl⟩ := h
  exact ⟨cs, List.prefix_rfl⟩

theorem Begins.of_isPrefix {p q : List UInt8} (h : Begins q) (part : p <+: q) : Begins p := by
  obtain ⟨cs, rest⟩ := h
  exact ⟨cs, part.trans rest⟩

/-- What is wrong with bytes that are no form: after the most of them that a text can begin with
stands a byte that no text goes on with there, between two characters or inside of one; or there is
no further byte, though the last character is not whole. -/
inductive FirstFault : List UInt8 → Fault → Prop
  | start {p b r} : IsForm p → ¬ Begins (p ++ [b]) → FirstFault (p ++ b :: r) .start
  | continuation {p b r} : Begins p → ¬ IsForm p → ¬ Begins (p ++ [b]) →
      FirstFault (p ++ b :: r) .continuation
  | ending {p} : Begins p → ¬ IsForm p → FirstFault p .ending

/-- Bytes that no text begins with have a first byte with which that is so. -/
theorem exists_break {bytes : List UInt8} (h : ¬ Begins bytes) :
    ∃ p b r, bytes = p ++ b :: r ∧ Begins p ∧ ¬ Begins (p ++ [b]) := by
  induction bytes using List.reverseRecOn with
  | nil => exact absurd ⟨[], List.nil_prefix⟩ h
  | append_singleton bytes b ih =>
    by_cases begins : Begins bytes
    · exact ⟨bytes, b, [], rfl, begins, h⟩
    · obtain ⟨p, c, r, rfl, begins, broken⟩ := ih begins
      exact ⟨p, c, r ++ [b], by simp, begins, broken⟩

theorem isForm_or_fault (bytes : List UInt8) : IsForm bytes ∨ ∃ fault, FirstFault bytes fault := by
  by_cases form : IsForm bytes
  · exact .inl form
  by_cases begins : Begins bytes
  · exact .inr ⟨_, .ending begins form⟩
  obtain ⟨p, b, r, rfl, begins, broken⟩ := exists_break begins
  by_cases whole : IsForm p
  · exact .inr ⟨_, .start whole broken⟩
  · exact .inr ⟨_, .continuation begins whole broken⟩

/-! ## The reader -/

/-- Where the reader stands after bytes that it has not refused: between two characters, or inside
of the last one. -/
inductive Stands : Option Begun → List UInt8 → Prop
  | between (cs : List Char) : Stands none (encode cs)
  | inside (cs : List Char) {g q} : g.Opens q → Stands (some g) (encode cs ++ q)

/-- How a byte is refused there. -/
def refusal : Option Begun → Fault
  | none => .start
  | some _ => .continuation

namespace Stands

variable {s : Option Begun} {p : List UInt8}

/-- The bytes have been read as characters, and what follows is read from there. -/
theorem read (h : Stands s p) : ∃ cs, ∀ r, decode (p ++ r) = (readFrom s r).map (cs ++ ·) := by
  cases h with
  | between cs => exact ⟨cs, readFrom_encode cs⟩
  | inside cs opens =>
    refine ⟨cs, fun r => ?_⟩
    rw [List.append_assoc, decode, readFrom_encode, opens.read]

theorem begins (h : Stands s p) : Begins p := by
  cases h with
  | between cs => exact IsForm.begins ⟨cs, rfl⟩
  | inside cs opens =>
    obtain ⟨c, part⟩ := opens.exists_char
    refine ⟨cs ++ [c], ?_⟩
    rw [encode_append, encode_singleton]
    exact List.prefix_append_right_inj _ |>.2 part

/-- A byte takes the reader further, or is refused. -/
theorem step (h : Stands s p) (b : UInt8) :
    (∃ s', Stands s' (p ++ [b])) ∨ ∀ r, readFrom s (b :: r) = .error (refusal s) := by
  cases h with
  | between cs =>
    cases begun : begin? b.toNat with
    | none => exact .inr fun r => by rw [readFrom, begun]; rfl
    | some next =>
      cases next with
      | inl c =>
        have form : String.utf8EncodeChar c = [b] := Begun.encodeChar_of_begin begun
        refine .inl ⟨none, ?_⟩
        rw [← form, ← encode_singleton, ← encode_append]
        exact .between (cs ++ [c])
      | inr g => exact .inl ⟨some g, .inside cs (Begun.opens_begin begun)⟩
  | @inside cs g q opens =>
    cases continued : g.continue? b.toNat with
    | none => exact .inr fun r => by rw [readFrom, continued]; rfl
    | some next =>
      cases next with
      | inl c =>
        refine .inl ⟨none, ?_⟩
        rw [List.append_assoc, ← opens.continue_char continued, ← encode_singleton, ← encode_append]
        exact .between (cs ++ [c])
      | inr g' =>
        refine .inl ⟨some g', ?_⟩
        rw [List.append_assoc]
        exact .inside cs (opens.continue_begun continued)

end Stands

/-- A byte with which no text goes on is refused. -/
theorem Stands.refuses {s : Option Begun} {p : List UInt8} (h : Stands s p) {b : UInt8}
    (broken : ¬ Begins (p ++ [b])) (r : List UInt8) :
    decode (p ++ b :: r) = .error (refusal s) := by
  obtain ⟨cs, read⟩ := h.read
  rcases h.step b with ⟨s', further⟩ | refused
  · exact absurd further.begins broken
  · rw [read, refused]
    rfl

/-- The reader gets through the beginning of a text. -/
theorem exists_stands {p : List UInt8} (h : Begins p) : ∃ s, Stands s p := by
  induction p using List.reverseRecOn with
  | nil => exact ⟨none, .between []⟩
  | append_singleton p b ih =>
    obtain ⟨s, stands⟩ := ih (h.of_isPrefix (List.prefix_append p [b]))
    rcases stands.step b with further | refused
    · exact further
    · obtain ⟨cs, rest, form⟩ := h
      obtain ⟨ds, read⟩ := stands.read
      have failed : decode (encode cs) = .error (refusal s) := by
        rw [← form, List.append_assoc, read, List.singleton_append, refused]
        rfl
      rw [decode_encode] at failed
      exact absurd failed nofun

theorem exists_inside {p : List UInt8} (h : Begins p) (open_ : ¬ IsForm p) :
    ∃ g, Stands (some g) p := by
  obtain ⟨s, stands⟩ := exists_stands h
  cases stands with
  | between cs => exact absurd ⟨cs, rfl⟩ open_
  | inside cs opens => exact ⟨_, .inside cs opens⟩

theorem FirstFault.decode_eq {bytes : List UInt8} {fault : Fault} (h : FirstFault bytes fault) :
    decode bytes = .error fault := by
  cases h with
  | start form broken =>
    obtain ⟨cs, rfl⟩ := form
    exact (Stands.between cs).refuses broken _
  | continuation begins open_ broken =>
    obtain ⟨g, stands⟩ := exists_inside begins open_
    exact stands.refuses broken _
  | ending begins open_ =>
    obtain ⟨g, stands⟩ := exists_inside begins open_
    obtain ⟨cs, read⟩ := stands.read
    have last := read []
    rwa [List.append_nil, readFrom] at last

/-- The texts that are read are those that the bytes are the form of. -/
theorem decode_eq_ok_iff {bytes : List UInt8} {cs : List Char} :
    decode bytes = .ok cs ↔ bytes = encode cs := by
  constructor
  · intro read
    rcases isForm_or_fault bytes with ⟨ds, rfl⟩ | ⟨fault, first⟩
    · rw [Except.ok.inj ((decode_encode ds).symm.trans read)]
    · exact absurd (first.decode_eq.symm.trans read) nofun
  · rintro rfl
    exact decode_encode cs

/-- The fault that is found is the first one that is there. -/
theorem decode_eq_error_iff {bytes : List UInt8} {fault : Fault} :
    decode bytes = .error fault ↔ FirstFault bytes fault := by
  constructor
  · intro refused
    rcases isForm_or_fault bytes with ⟨ds, rfl⟩ | ⟨other, first⟩
    · exact absurd ((decode_encode ds).symm.trans refused) nofun
    · rwa [← Except.error.inj (first.decode_eq.symm.trans refused)]
  · exact FirstFault.decode_eq

end MiniC.Text.Utf8
