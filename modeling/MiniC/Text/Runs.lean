/-
  MiniC.Text.Runs — sets of characters, as runs of code points.

  A run is given by its first and its last code point. The runs of a set stand in increasing
  order and apart from each other, so that a search may stop at the first run that starts
  beyond what it looks for; `Runs.holds_iff` says that it misses none. A list of runs in
  another order is no set.
-/

namespace MiniC.Text

/-- Do the runs stand in increasing order and apart? -/
def Runs.areOrdered : List (Nat × Nat) → Bool
  | [] => true
  | [run] => run.1 ≤ run.2
  | run :: next :: rest => run.1 ≤ run.2 && run.2 < next.1 && Runs.areOrdered (next :: rest)

/-- A set of code points. -/
structure Runs where
  list : List (Nat × Nat)
  ordered : Runs.areOrdered list := by decide +kernel

/-- Is the code point in one of the runs? -/
def Runs.someHolds : List (Nat × Nat) → Nat → Bool
  | [], _ => false
  | run :: rest, n => run.1 ≤ n && (n ≤ run.2 || Runs.someHolds rest n)

/-- Is the code point in the set? -/
def Runs.holds (runs : Runs) (n : Nat) : Bool := Runs.someHolds runs.list n

theorem Runs.areOrdered_tail {run : Nat × Nat} {rest : List (Nat × Nat)}
    (h : Runs.areOrdered (run :: rest)) : Runs.areOrdered rest := by
  cases rest with
  | nil => rfl
  | cons next rest =>
    simp only [Runs.areOrdered, Bool.and_eq_true] at h
    exact h.2

theorem Runs.first_le {run other : Nat × Nat} {rest : List (Nat × Nat)}
    (h : Runs.areOrdered (run :: rest)) (mem : other ∈ rest) : run.1 ≤ other.1 := by
  induction rest generalizing run with
  | nil => cases mem
  | cons next rest ih =>
    simp only [Runs.areOrdered, Bool.and_eq_true, decide_eq_true_eq] at h
    rcases List.mem_cons.1 mem with rfl | mem
    · omega
    · have := ih h.2 mem
      omega

/-- In ordered runs a search finds all that they hold. -/
theorem Runs.someHolds_iff {runs : List (Nat × Nat)} (h : Runs.areOrdered runs) (n : Nat) :
    Runs.someHolds runs n ↔ ∃ run ∈ runs, run.1 ≤ n ∧ n ≤ run.2 := by
  induction runs with
  | nil => simp [Runs.someHolds]
  | cons run rest ih =>
    simp only [Runs.someHolds, Bool.and_eq_true, Bool.or_eq_true, decide_eq_true_eq,
      ih (Runs.areOrdered_tail h), List.mem_cons, exists_eq_or_imp]
    constructor
    · rintro ⟨first, last | later⟩
      · exact .inl ⟨first, last⟩
      · exact .inr later
    · rintro (⟨first, last⟩ | ⟨other, mem, first, last⟩)
      · exact ⟨first, .inl last⟩
      · exact ⟨Nat.le_trans (Runs.first_le h mem) first, .inr ⟨other, mem, first, last⟩⟩

/-- A set holds the code points of its runs. -/
theorem Runs.holds_iff (runs : Runs) (n : Nat) :
    runs.holds n ↔ ∃ run ∈ runs.list, run.1 ≤ n ∧ n ≤ run.2 :=
  Runs.someHolds_iff runs.ordered n

end MiniC.Text
