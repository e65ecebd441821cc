/-
  MiniC.Proofs.Lexer.Location — where the cursor of a lexer stands, whatever has been asked of it.

  A cursor is moved by passing characters, and by nothing else. What is read passes as many as its
  segments cover, or all that are left where those reach beyond the end; it does so as well when it
  is started inside of a word, and the positions that a caller names are not those of the cursor.
  Passing characters keeps the text, and each of them counts for the position. So this is always
  the one that the text before the offset tells.

  Proved:
  - `Cursor.skip_skip`: characters may be passed in two steps.
  - `Cursor.Located.skip`: passing characters leaves a cursor at the place of its offset.
  - `Lexer.exists_cursor_call`, `Lexer.exists_cursor_callAll`: every call of a lexer, and so any
    sequence of calls, passes some number of characters.
  - `Lexer.cursor_located`: so the text stays whole, the offset never goes back, and the position
    is that of the offset.
-/

import Mathlib.Algebra.Ring.Nat
import MiniC.Proofs.Lexer.Operations
import MiniC.Proofs.Lexer.Segmentation

namespace MiniC

/-! ## Passing characters -/

namespace Cursor

theorem skip_of_rest_eq_nil {c : Cursor} (done : c.rest = []) (n : Nat) : c.skip n = c := by
  cases n with
  | zero => rfl
  | succ n => rw [skip, done]

theorem skip_skip (m n : Nat) (c : Cursor) : (c.skip m).skip n = c.skip (m + n) := by
  induction m generalizing c with
  | zero => rw [Nat.zero_add]; rfl
  | succ m ih =>
    cases left : c.rest with
    | nil => simp only [skip_of_rest_eq_nil left]
    | cons ch r =>
      rw [Nat.succ_add, skip, left, skip, left]
      exact ih _

theorem text_skip (n : Nat) (c : Cursor) : (c.skip n).text = c.text := by
  rw [text, skip_passed, skip_rest, List.reverse_append, List.reverse_reverse, List.append_assoc,
    List.take_append_drop]
  rfl

theorem offset_le_skip (n : Nat) (c : Cursor) : c.offset ≤ (c.skip n).offset := by
  rw [offset, offset, skip_passed, List.length_append]
  exact Nat.le_add_left _ _

theorem offset_le (c : Cursor) : c.offset ≤ c.text.length := by
  rw [text, List.length_append, List.length_reverse]
  exact Nat.le_add_right _ _

theorem take_offset (c : Cursor) : c.text.take c.offset = c.passed.reverse :=
  List.take_left' List.length_reverse

/-- The cursor goes through the text, and its position is that of its offset. -/
structure Located (text : List Char) (c : Cursor) : Prop where
  text_eq : c.text = text
  position_eq : c.position = placeAfter (text.take c.offset)

namespace Located

variable {text : List Char} {c : Cursor}

theorem ofChars (text : List Char) : (Cursor.ofChars text).Located text := ⟨rfl, rfl⟩

theorem skip (h : c.Located text) (n : Nat) : (c.skip n).Located text := by
  have whole : (c.skip n).text = text := (text_skip n c).trans h.text_eq
  have before : placeAfter c.passed.reverse = c.position := by
    rw [h.position_eq, ← h.text_eq, take_offset]
  refine ⟨whole, ?_⟩
  rw [← whole, take_offset, skip_passed, List.reverse_append, List.reverse_reverse,
    placeAfter_append, before, skip_position]

end Located

end Cursor

/-! ## Using a lexer -/

namespace Lexer

theorem foldl_skip (ps : List Placed) (c : Cursor) :
    ps.foldl (fun c p => c.skip p.segment.size) c = c.skip (ps.map (·.segment.size)).sum := by
  induction ps generalizing c with
  | nil => rfl
  | cons p ps ih => rw [List.foldl_cons, ih, Cursor.skip_skip, List.map_cons, List.sum_cons]

/-- Segments pass as many characters as they cover. -/
theorem cursor_take (ps : List Placed) (l : Lexer) :
    (l.take ps).cursor = l.cursor.skip (ps.map (·.segment.size)).sum :=
  foldl_skip ps l.cursor

/-- What a caller does with a lexer: it asks for an operation, or adds a token of its own. -/
inductive Call where
  | perform (operation : Operation)
  | addToken (t : Token)

/-- The lexer after a call. A token that is only added is not counted. -/
def call (l : Lexer) : Call → Lexer
  | .perform operation => l.perform operation
  | .addToken t => { l with tokens := l.tokens ++ [t] }

/-- The lexer after calls, one after another. -/
def callAll (l : Lexer) (calls : List Call) : Lexer := calls.foldl call l

/-- Every call passes some number of characters. -/
theorem exists_cursor_call (l : Lexer) (c : Call) : ∃ n, (l.call c).cursor = l.cursor.skip n := by
  cases c with
  | perform operation =>
    cases operation with
    | tokenize => exact ⟨_, cursor_take (segments l.cursor.position l.cursor.rest) l⟩
    | advance steps => exact ⟨steps.toNat, rfl⟩
    | skipLineComment => exact ⟨_, cursor_take _ l⟩
    | skipBlockComment position => exact ⟨_, cursor_take _ l⟩
    | readString position => exact ⟨_, cursor_take _ l⟩
    | readNumber position => exact ⟨_, cursor_take _ l⟩
    | readIdentifier position => exact ⟨_, cursor_take _ l⟩
    | readSymbol sign position => exact ⟨_, cursor_take _ l⟩
    | addError message position => exact ⟨0, rfl⟩
  | addToken t => exact ⟨0, rfl⟩

theorem exists_cursor_callAll (l : Lexer) (calls : List Call) :
    ∃ n, (l.callAll calls).cursor = l.cursor.skip n := by
  induction calls generalizing l with
  | nil => exact ⟨0, rfl⟩
  | cons c calls ih =>
    obtain ⟨first, moved⟩ := exists_cursor_call l c
    obtain ⟨later, moved'⟩ := ih (l.call c)
    refine ⟨first + later, ?_⟩
    rw [← Cursor.skip_skip, ← moved]
    exact moved'

/-- After any sequence of calls, and so after each call of one, the cursor is inside the text or at
its end. Its position is the line and the column of its offset: one more than the line feeds before
it, and one more than the characters since the last of these, or since the start of the text. No
later call takes it back. Advancing twice is advancing by the sum. -/
theorem cursor_located (source : String) (calls : List Call) :
    let l := (ofText source).callAll calls
    let c := l.cursor
    c.text = source.toList ∧ c.offset ≤ source.toList.length ∧
      c.position = placeAfter (source.toList.take c.offset) ∧
      (∀ later, c.offset ≤ (l.callAll later).cursor.offset) ∧
      ∀ m n : Nat, (c.advance m).advance n = c.advance (m + n) := by
  intro l c
  obtain ⟨n, moved⟩ := exists_cursor_callAll (ofText source) calls
  have located : c.Located source.toList := by
    have start : (ofText source).cursor.Located source.toList := .ofChars source.toList
    rw [show c = _ from moved]
    exact start.skip n
  have inside : c.offset ≤ source.toList.length := located.text_eq ▸ c.offset_le
  refine ⟨located.text_eq, inside, located.position_eq, fun later => ?_, fun m n => ?_⟩
  · obtain ⟨further, moved'⟩ := exists_cursor_callAll l later
    rw [moved']
    exact c.offset_le_skip further
  · exact Cursor.skip_skip m n c

/-- A string that is started at a letter reaches over a line feed behind a backslash, and a step
back is none. -/
example :
    let calls : List Call := [.perform (.readString ⟨9, 9⟩), .perform (.advance (-3))]
    ((ofText "x\\\ny").callAll calls).cursor = ⟨['\n', '\\', 'x'], ['y'], ⟨2, 1⟩⟩ := by
  decide

end Lexer

end MiniC
