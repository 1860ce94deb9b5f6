/-!
# `ChangeLens.Text.Scan`: all matches of a pattern, from left to right

A `Pattern` looks at the text from one position on; where it matches it says how many characters
the match has and what it found. Matches do not overlap: the search goes on behind each match.
-/

set_option autoImplicit false

namespace ChangeLens.Text

/-- A pattern answers the length of its match at the start of a text and what it found; a match of
length zero counts as none. -/
abbrev Pattern (α : Type) := List Char → Option (Nat × α)

/-- The matches in the rest of a text whose first `skip` characters belong to a match already
found. -/
def findAllFrom {α : Type} (pattern : Pattern α) (skip : Nat) : List Char → List α
  | [] => []
  | c :: rest =>
    match skip with
    | skip + 1 => findAllFrom pattern skip rest
    | 0 =>
      match pattern (c :: rest) with
      | some (taken + 1, found) => found :: findAllFrom pattern taken rest
      | _ => findAllFrom pattern 0 rest

/-- All matches of a pattern, from left to right. -/
def findAll {α : Type} (pattern : Pattern α) (cs : List Char) : List α :=
  findAllFrom pattern 0 cs

end ChangeLens.Text
