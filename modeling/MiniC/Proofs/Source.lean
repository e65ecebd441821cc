/-
  MiniC.Proofs.Source — what a file has to hold for a source text to be loaded from it.

  A text that has no carriage returns can be written with any of three line ends (`LineEnd.write`),
  and each of them is read as a line feed. So a text is loaded as it is from three files, its byte
  order mark included, and its analysis does not tell which of them it comes from. Nothing is loaded
  from bytes that are no UTF-8 form of any text: the error names the first fault in them.

  Proved:
  - `unifyLineEnds_write`: a text is read back from each of its line ends.
  - `loadSource_file`: what is loaded from a file is told by the decoding of its bytes.
  - `loadSource_text_or_fault`: three files hold the same text, and an ill-formed one holds none.
-/

import MiniC.Analysis
import MiniC.Proofs.Text.Utf8
import MiniC.Source

namespace MiniC

open Text

/-! ## Line ends -/

/-- How the lines of a text may end in a file. -/
inductive LineEnd where
  | lf
  | crlf
  | cr
  deriving DecidableEq, Repr

namespace LineEnd

def chars : LineEnd → List Char
  | .lf => ['\n']
  | .crlf => ['\r', '\n']
  | .cr => ['\r']

/-- The text with this line end in place of each line feed. -/
def write (e : LineEnd) (cs : List Char) : List Char :=
  cs.flatMap fun c => if c = '\n' then e.chars else [c]

theorem write_feed (e : LineEnd) (r : List Char) : e.write ('\n' :: r) = e.chars ++ e.write r := rfl

theorem write_cons (e : LineEnd) {c : Char} (solid : c ≠ '\n') (r : List Char) :
    e.write (c :: r) = c :: e.write r := by
  rw [write, List.flatMap_cons, if_neg solid]
  rfl

/-- Written with carriage returns, a text starts with no line feed. -/
theorem head?_write_cr (cs : List Char) : (LineEnd.cr.write cs).head? ≠ some '\n' := by
  cases cs with
  | nil => exact nofun
  | cons c r =>
    by_cases feed : c = '\n'
    · subst feed
      simp [write_feed, chars]
    · simp [write_cons _ feed, feed]

end LineEnd

theorem unifyLineEnds_cons {c : Char} (solid : c ≠ '\r') (r : List Char) :
    unifyLineEnds (c :: r) = c :: unifyLineEnds r := by
  rw [unifyLineEnds]
  · exact fun _ h _ => solid h
  · exact solid

theorem unifyLineEnds_cr {r : List Char} (single : r.head? ≠ some '\n') :
    unifyLineEnds ('\r' :: r) = '\n' :: unifyLineEnds r := by
  rw [unifyLineEnds]
  rintro r' rfl
  exact single rfl

/-- A text without carriage returns is read back from each of its line ends. -/
theorem unifyLineEnds_write (e : LineEnd) {cs : List Char} (single : '\r' ∉ cs) :
    unifyLineEnds (e.write cs) = cs := by
  induction cs with
  | nil => rfl
  | cons c r ih =>
    rw [List.mem_cons, not_or] at single
    have later := ih single.2
    by_cases feed : c = '\n'
    · subst feed
      rw [e.write_feed]
      cases e with
      | lf => rw [LineEnd.chars, List.singleton_append, unifyLineEnds_cons (by decide), later]
      | crlf => exact congrArg _ later
      | cr =>
        have single := LineEnd.head?_write_cr r
        rw [LineEnd.chars, List.singleton_append, unifyLineEnds_cr single, later]
    · rw [e.write_cons feed, unifyLineEnds_cons (Ne.symm single.1), later]

/-! ## Loading -/

/-- What is loaded from a file is told by its bytes. -/
theorem loadSource_file {disk : Disk} {path : String} {bytes : List UInt8}
    (named : Path.isPath path) (file : disk (Path.shorten path) = .ok (.file bytes)) :
    loadSource disk path
      = (sourceOfBytes bytes).mapError fun f => .unreadable ⟨Path.shorten path, .notUtf8 f⟩ := by
  rw [loadSource, if_pos named, Disk.source, Disk.bytes, file]
  simp only
  cases sourceOfBytes bytes <;> rfl

/-- A file is at the path. If it holds the UTF-8 form of a text that has no carriage returns, with
any of the three line ends, then that text is loaded, all of it, and is what is analyzed. If it
holds bytes that are the form of no text, then there is one first fault in them, and loading fails
with it. -/
theorem loadSource_text_or_fault (disk : Disk) (path : String) (bytes : List UInt8)
    (named : Path.isPath path) (file : disk (Path.shorten path) = .ok (.file bytes)) :
    (∀ (source : String) (e : LineEnd), '\r' ∉ source.toList →
      bytes = Utf8.encode (e.write source.toList) →
        loadSource disk path = .ok source ∧
          ∀ asked, (loadSource disk path).map (analyzeLogged · asked)
            = .ok (analyzeLogged source asked)) ∧
      (¬ Utf8.IsForm bytes → ∃ fault, (∀ other, Utf8.FirstFault bytes other ↔ other = fault) ∧
        loadSource disk path = .error (.unreadable ⟨Path.shorten path, .notUtf8 fault⟩)) := by
  have loaded := loadSource_file named file
  constructor
  · intro source e single written
    have text : loadSource disk path = .ok source := by
      rw [loaded, sourceOfBytes, Utf8.decode_eq_ok_iff.2 written]
      simp only [Except.map, Except.mapError]
      rw [unifyLineEnds_write e single, String.ofList_toList]
    refine ⟨text, fun asked => ?_⟩
    rw [text]
    rfl
  · intro formless
    rcases Utf8.isForm_or_fault bytes with form | ⟨fault, first⟩
    · exact absurd form formless
    · have refused := first.decode_eq
      refine ⟨fault, fun other => ⟨fun another => ?_, fun same => same ▸ first⟩, ?_⟩
      · exact Except.error.inj (another.decode_eq.symm.trans refused)
      · rw [loaded, sourceOfBytes, refused]
        rfl

/-- A text with a byte order mark in a file with carriage returns, and a file in which an overlong
form stands before a byte that starts nothing. -/
theorem a_broken_file_beside_a_sound_one :
    let holding (bytes : List UInt8) : Disk := fun _ => .ok (.file bytes)
    let text := "\ufeffint é;\n\n"
    let sound := Utf8.encode (LineEnd.cr.write text.toList)
    let broken : List UInt8 := [0x61, 0xE0, 0x80, 0xFF]
    loadSource (holding sound) "a.mc" = .ok text ∧ ¬ Utf8.IsForm broken ∧
      loadSource (holding broken) "a.mc"
        = .error (.unreadable ⟨Path.shorten "a.mc", .notUtf8 .continuation⟩) := by
  intro holding text sound broken
  have first : Utf8.FirstFault broken .continuation :=
    Utf8.decode_eq_error_iff.1 (by decide +kernel)
  have formless : ¬ Utf8.IsForm broken := by
    rintro ⟨cs, form⟩
    exact absurd (first.decode_eq.symm.trans (Utf8.decode_eq_ok_iff.2 form)) nofun
  have named : Path.isPath "a.mc" := by decide +kernel
  obtain ⟨whole, -⟩ := loadSource_text_or_fault (holding sound) "a.mc" sound named rfl
  obtain ⟨-, faulty⟩ := loadSource_text_or_fault (holding broken) "a.mc" broken named rfl
  obtain ⟨fault, only, refused⟩ := faulty formless
  have same : .continuation = fault := (only _).1 first
  exact ⟨(whole text .cr (by decide) rfl).1, formless, same ▸ refused⟩

end MiniC
