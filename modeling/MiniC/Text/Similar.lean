/-
  MiniC.Text.Similar — the words that a misspelt word may stand for.

  Two words share a longest common stretch, then what they share to its left and to its
  right. Their likeness is twice the number of characters shared out of all the characters
  of both. The three words most like a given one are offered, if they are like it by three
  fifths.
-/

namespace MiniC.Text

/-- How far two texts agree from their starts. -/
def agreement : List Char → List Char → Nat
  | a :: as, b :: bs => if a = b then agreement as bs + 1 else 0
  | _, _ => 0

/-- The first longest stretch that two texts have in common: where it starts in each, and
how long it is. -/
def longestStretch (as bs : List Char) : Nat × Nat × Nat :=
  let starts := (List.range as.length).flatMap fun i => (List.range bs.length).map (i, ·)
  starts.foldl
    (fun best (i, j) =>
      let k := agreement (as.drop i) (bs.drop j)
      if best.2.2 < k then (i, j, k) else best)
    (0, 0, 0)

/-- How many characters two texts share, found in at most `depth` rounds. -/
def sharedIn : Nat → List Char → List Char → Nat
  | 0, _, _ => 0
  | depth + 1, as, bs =>
    let (i, j, k) := longestStretch as bs
    if k = 0 then 0
    else
      k + sharedIn depth (as.take i) (bs.take j)
        + sharedIn depth (as.drop (i + k)) (bs.drop (j + k))

def shared (as bs : List Char) : Nat := sharedIn as.length as bs

/-- The likeness of two texts, as a numerator and a denominator. -/
def likeness (as bs : List Char) : Nat × Nat := (2 * shared as bs, as.length + bs.length)

/-- May two texts of these lengths be like enough? They share no more than the shorter one. -/
def mayBeClose (m n : Nat) : Bool := 3 * (m + n) ≤ 5 * (2 * min m n)

/-- The words that are most like `word`, at most three, in the order of the alphabet. -/
def similar (word : String) (choices : List String) : List String :=
  let scored := (choices.filter (mayBeClose ·.length word.length)).map fun c => (likeness c.toList word.toList, c)
  let close := scored.filter fun ((n, d), _) => 3 * d ≤ 5 * n
  let ranked := close.mergeSort fun ((n, d), a) ((m, e), b) =>
    if n * e = m * d then decide (b ≤ a) else decide (m * d ≤ n * e)
  ((ranked.take 3).map (·.2)).mergeSort fun a b => decide (a ≤ b)

end MiniC.Text
