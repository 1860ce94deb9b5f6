/-!
# `ChangeLens.LineRange`: closed ranges of lines

Both ends belong to a range, and a range is never empty.
-/

set_option autoImplicit false

namespace ChangeLens

/-- A closed range of lines, counted from one. -/
structure LineRange where
  /-- The first line. -/
  start : Int
  /-- The last line. -/
  stop : Int
  /-- A range has at least one line. -/
  start_le_stop : start ≤ stop := by omega
deriving Repr, DecidableEq

namespace LineRange

/-- The range between two lines, unless it would end before it starts. -/
def ofBounds? (start stop : Int) : Option LineRange :=
  if h : start ≤ stop then some ⟨start, stop, h⟩ else none

/-- What is wrong with bounds that `ofBounds?` refuses. -/
def boundsMessage (start stop : Int) : String :=
  s!"line range ends before it starts: {start} > {stop}"

/-- `count` lines from `first` on; at least one line, and none before the first. -/
def ofCount (first count : Nat) : LineRange where
  start := max first 1
  stop := max first 1 + (count - 1 : Nat)

/-- Whether a line lies in the range. -/
def contains (range : LineRange) (line : Int) : Bool :=
  range.start ≤ line && line ≤ range.stop

/-- Whether the lines from `first` to `last` touch the range. -/
def overlaps (range : LineRange) (first last : Int) : Bool :=
  range.start ≤ last && first ≤ range.stop

end LineRange

end ChangeLens
