/-!
# `ChangeLens.Text.Lines`: the lines of a text

A line ends at a line feed, a carriage return, the pair of both, a vertical tab, a form feed, one of
the separators U+001C to U+001E, a next-line control or a Unicode line or paragraph separator. A
line break at the end of the text does not start a further line.
-/

set_option autoImplicit false

namespace ChangeLens.Text

/-- Characters that end a line. -/
def isLineBreak (c : Char) : Bool :=
  let n := c.toNat
  (0x0a ≤ n && n ≤ 0x0d) || (0x1c ≤ n && n ≤ 0x1e) || n == 0x85 || n == 0x2028 || n == 0x2029

/-- The lines of the rest of a text; `line` holds what was read of the current one, reversed. -/
def linesFrom (line : List Char) : List Char → List (List Char)
  | [] => if line.isEmpty then [] else [line.reverse]
  | '\r' :: '\n' :: rest => line.reverse :: linesFrom [] rest
  | c :: rest =>
    if isLineBreak c then line.reverse :: linesFrom [] rest else linesFrom (c :: line) rest

/-- The lines of a text, without their line breaks. -/
def lines (cs : List Char) : List (List Char) :=
  linesFrom [] cs

/-- Line feeds for the line ends `\r\n` and `\r`; all else stays. -/
def unifyLineEnds : List Char → List Char
  | [] => []
  | '\r' :: '\n' :: rest => '\n' :: unifyLineEnds rest
  | c :: rest => (if c = '\r' then '\n' else c) :: unifyLineEnds rest

end ChangeLens.Text
