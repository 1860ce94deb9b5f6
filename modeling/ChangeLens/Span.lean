/-!
# `ChangeLens.Span`: places in a source text

Lines count from one and columns from zero; a column counts code points. Coordinates are integers,
because records can also be read from outside.
-/

set_option autoImplicit false

namespace ChangeLens

/-- Where something starts. Lines count from one, columns from zero. -/
structure Position where
  /-- The line, from one. -/
  line : Int
  /-- The column, from zero. -/
  column : Int
deriving Repr, DecidableEq

/-- Whether one position is at or before another one: earlier line first, then earlier column. -/
def Position.atOrBefore (a b : Position) : Bool :=
  a.line < b.line || (a.line == b.line && a.column ≤ b.column)

/-- Where something starts and where it ends. -/
structure Span where
  /-- The line of the start, from one. -/
  startLine : Int
  /-- The column of the start, from zero. -/
  startColumn : Int
  /-- The line of the end, from one. -/
  endLine : Int
  /-- The column of the end, from zero. -/
  endColumn : Int
deriving Repr, DecidableEq

namespace Span

/-- The start of the first line, where records about a whole file stand. -/
def fileStart : Span :=
  ⟨1, 0, 1, 0⟩

/-- The start of a span. -/
def position (span : Span) : Position :=
  ⟨span.startLine, span.startColumn⟩

/-- The end of a span. -/
def endPosition (span : Span) : Position :=
  ⟨span.endLine, span.endColumn⟩

/-- A span that does not end before it starts. -/
def isOrdered (span : Span) : Bool :=
  span.position.atOrBefore span.endPosition

end Span

end ChangeLens
