import ChangeLens.Text.Similarity

/-!
# `ChangeLens.Text.Distance`: edit distance and the similarity it gives

The edit distance of two texts is the least number of insertions, deletions and replacements of
single characters that turns one into the other. `distance` computes it row by row: a row holds the
distances from one part of the first text to all parts of the second.

`similarity` is `1 - distance / longest`, and 1 for two empty texts. It is the measure that the
program hands to a run; the analyzers take any measure.
-/

set_option autoImplicit false

namespace ChangeLens.Text

/-- The rest of the next row: `diagonal` and `above` belong to the row before, `left` is the entry
just computed. -/
def nextRow (x : Char) (diagonal left : Nat) : List Char → List Nat → List Nat
  | y :: ys, up :: above =>
    let entry := if x = y then diagonal else min diagonal (min up left) + 1
    entry :: nextRow x up entry ys above
  | _, _ => []

/-- The last row for the characters still to come, from the row `first :: above`. -/
def lastRow (ys : List Char) : List Char → Nat → List Nat → Nat × List Nat
  | [], first, above => (first, above)
  | x :: xs, first, above => lastRow ys xs (first + 1) (nextRow x first (first + 1) ys above)

/-- The edit distance of two texts. -/
def distance (xs ys : List Char) : Nat :=
  let (first, above) := lastRow ys xs 0 (ys.zipIdx.map (·.2 + 1))
  above.getLast?.getD first

/-- The similarity of two texts. -/
def similarity (a b : String) : Similarity :=
  let xs := a.toList
  let ys := b.toList
  let longest := max xs.length ys.length
  ⟨longest - distance xs ys, longest⟩

end ChangeLens.Text
