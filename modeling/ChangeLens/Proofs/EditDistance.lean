import ChangeLens.Text.Distance

/-!
# `ChangeLens.Proofs.EditDistance`: the edit distance does not depend on the direction

`Text.distance` fills a table row by row and keeps one row at a time. `cost` is the recursion behind
the table, on the parts read so far, last character first. `row_eq_nextRow` says that one step of the
program turns a row of costs into the next one, so after all characters the last entry is the cost of
both whole texts (`distance_eq_cost`). The recursion reads the same in both directions, hence so do
distance and similarity.
-/

set_option autoImplicit false

namespace ChangeLens.Text

/-- The number of changes between two texts, given last character first: equal last characters cost
nothing, else one of them is replaced, deleted or inserted. -/
def cost : List Char → List Char → Nat
  | [], ys => ys.length
  | _ :: xs, [] => xs.length + 1
  | x :: xs, y :: ys =>
    if x = y then cost xs ys
    else min (cost xs ys) (min (cost xs (y :: ys)) (cost (x :: xs) ys)) + 1
termination_by xs ys => xs.length + ys.length

/-- Turning a text into the empty one costs as much as it is long. -/
theorem cost_nil_right (xs : List Char) : cost xs [] = xs.length := by
  cases xs <;> simp [cost]

/-- The cost of turning one text into another is the same both ways. -/
theorem cost_comm (xs ys : List Char) : cost xs ys = cost ys xs := by
  fun_induction cost xs ys with
  | case1 ys => exact (cost_nil_right ys).symm
  | case2 x xs => rw [cost, List.length_cons]
  | case3 xs x ys ih => rw [cost, if_pos rfl, ih]
  | case4 x xs y ys hne ihBoth ihRight ihLeft =>
    rw [cost, if_neg (Ne.symm hne), ihBoth, ihRight, ihLeft, Nat.min_comm (cost (y :: ys) xs)]

/-! ### Rows of the table -/

/-- The costs from one part of the first text to the parts of the second one that are longer than
`read`, of which `ys` is still to come. -/
def row (part read : List Char) : List Char → List Nat
  | [] => []
  | y :: ys => cost part (y :: read) :: row part (y :: read) ys

/-- One more character of the first text turns its row into the next one. -/
theorem row_eq_nextRow (x : Char) (part read ys : List Char) :
    nextRow x (cost part read) (cost (x :: part) read) ys (row part read ys) =
      row (x :: part) read ys := by
  induction ys generalizing read with
  | nil => rfl
  | cons y ys ih =>
    have hentry : (if x = y then cost part read
        else min (cost part read) (min (cost part (y :: read)) (cost (x :: part) read)) + 1) =
        cost (x :: part) (y :: read) := by
      rw [cost]
    rw [row, nextRow, hentry, ih, row]

/-- The rest of the first text leads from the row of one part to the row of all. -/
theorem lastRow_eq_row (ys xs part : List Char) :
    lastRow ys xs (cost part []) (row part [] ys) =
      (cost (xs.reverse ++ part) [], row (xs.reverse ++ part) [] ys) := by
  induction xs generalizing part with
  | nil => rfl
  | cons x xs ih =>
    have hfirst : cost part [] + 1 = cost (x :: part) [] := by
      rw [cost_nil_right, cost_nil_right, List.length_cons]
    rw [lastRow, hfirst, row_eq_nextRow, ih, List.reverse_cons, List.append_assoc,
      List.singleton_append]

/-- The first row counts the characters of the second text. -/
theorem row_nil (read ys : List Char) :
    row [] read ys = (ys.zipIdx read.length).map (·.2 + 1) := by
  induction ys generalizing read with
  | nil => rfl
  | cons y ys ih => rw [row, ih, cost, List.zipIdx_cons, List.map_cons, List.length_cons]

/-- The last entry of a row belongs to the whole second text. -/
theorem getLast?_row (part read ys : List Char) :
    (row part read ys).getLast?.getD (cost part read) = cost part (ys.reverse ++ read) := by
  induction ys generalizing read with
  | nil => rfl
  | cons y ys ih =>
    rw [row, List.getLast?_cons, Option.getD_some, ih, List.reverse_cons, List.append_assoc,
      List.singleton_append]

/-- The distance, which is computed row by row, is the cost of the reversed texts. -/
theorem distance_eq_cost (xs ys : List Char) : distance xs ys = cost xs.reverse ys.reverse := by
  have hrow : ys.zipIdx.map (·.2 + 1) = row [] [] ys := (row_nil [] ys).symm
  have hlast := lastRow_eq_row ys xs []
  rw [cost_nil_right, List.length_nil, List.append_nil] at hlast
  rw [distance, hrow, hlast]
  show (row xs.reverse [] ys).getLast?.getD (cost xs.reverse []) = _
  rw [getLast?_row, List.append_nil]

/-! ### Both directions -/

/-- The distance is symmetric. -/
theorem distance_comm (xs ys : List Char) : distance xs ys = distance ys xs := by
  rw [distance_eq_cost, distance_eq_cost, cost_comm]

/-- The similarity is symmetric. -/
theorem similarity_comm (a b : String) : similarity a b = similarity b a := by
  simp only [similarity, distance_comm a.toList, Nat.max_comm a.toList.length]

end ChangeLens.Text
