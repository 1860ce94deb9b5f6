/-!
# `ChangeLens.Text.Glob`: wildcard patterns for paths

`*` stands for any characters (a slash included), `?` for one, and brackets for one of a set of
characters: single ones, ranges such as `a-z`, or after `!` all the others. A bracket without its
end is an ordinary character. A pattern has to match the whole path. In `globMatch` a leading `**/`
may also stand for no directory at all.
-/

set_option autoImplicit false

namespace ChangeLens.Text

/-- One element of a wildcard pattern. -/
inductive GlobToken where
  /-- The character itself. -/
  | char (c : Char)
  /-- Any one character. -/
  | anyChar
  /-- Any characters, also none. -/
  | anyText
  /-- One character within one of the closed ranges, or outside all of them. -/
  | oneOf (negated : Bool) (ranges : List (Char × Char))
deriving Repr, DecidableEq

namespace Glob

/-- What stands between a `[` and its `]`: a leading `!` and a `]` right at the start do not end
it. -/
def bracketBody? (afterOpen : List Char) : Option (List Char) :=
  let (bang, rest) := match afterOpen with
    | '!' :: rest => (['!'], rest)
    | rest => ([], rest)
  let (first, rest) := match rest with
    | ']' :: rest => ([']'], rest)
    | rest => ([], rest)
  let middle := rest.takeWhile (· != ']')
  if middle.length < rest.length then some (bang ++ first ++ middle) else none

/-- The pieces of a bracket between the hyphens that stand for a range. `held` counts the
characters at the start of a piece that cannot be such a hyphen. -/
def rangePieces (held : Nat) (piece : List Char) : List Char → List (List Char)
  | [] => [piece.reverse]
  | c :: rest =>
    match held with
    | held + 1 => rangePieces held (c :: piece) rest
    -- The end of a range cannot begin another one, so the next two characters are passed over.
    | 0 => if c = '-' then piece.reverse :: rangePieces 2 [] rest else rangePieces 0 (c :: piece) rest

/-- A hyphen at the very end is an ordinary character of the piece before it. -/
def closePieces : List (List Char) → List (List Char)
  | [piece, []] => [piece ++ ['-']]
  | piece :: rest => piece :: closePieces rest
  | [] => []

/-- Takes out ranges that end before they start, from the last to the first. -/
def dropEmptyRanges : List (List Char) → List (List Char)
  | [] => []
  | piece :: rest =>
    match dropEmptyRanges rest with
    | [] => [piece]
    | next :: more =>
      match piece.getLast?, next.head? with
      | some low, some high =>
        if high < low then (piece.dropLast ++ next.drop 1) :: more else piece :: next :: more
      | _, _ => piece :: next :: more

/-- The ranges that pieces joined by range hyphens stand for; a character that no hyphen touches is a
range of its own, and so is a hyphen without a character before it. -/
def piecesRanges : List (List Char) → List (Char × Char)
  | [] => []
  | [piece] => piece.map fun c => (c, c)
  | piece :: next :: more =>
    match piece.getLast?, next with
    | some low, high :: nextRest =>
      piece.dropLast.map (fun c => (c, c)) ++ (low, high) :: piecesRanges (nextRest :: more)
    | _, _ => piece.map (fun c => (c, c)) ++ ('-', '-') :: piecesRanges (next :: more)
termination_by pieces => pieces.length

/-- The element that a bracket with this body stands for. A body whose ranges are all empty matches
nothing, and its complement everything. -/
def bracketToken (body : List Char) : GlobToken :=
  -- A hyphen in the first place, behind a leading `!` if there is one, is an ordinary character.
  let held := match body with
    | '!' :: _ => 2
    | _ => 1
  let pieces := dropEmptyRanges (closePieces (rangePieces held [] body))
  match pieces with
  | ('!' :: piece) :: more =>
    if piece.isEmpty && more.isEmpty then .anyChar else .oneOf true (piecesRanges (piece :: more))
  | pieces => .oneOf false (piecesRanges pieces)

/-- The elements of a pattern; the first `skip` characters belong to an element already read. -/
def tokensFrom (skip : Nat) : List Char → List GlobToken
  | [] => []
  | c :: rest =>
    match skip with
    | skip + 1 => tokensFrom skip rest
    | 0 =>
      if c = '*' then .anyText :: tokensFrom 0 rest
      else if c = '?' then .anyChar :: tokensFrom 0 rest
      else if c = '[' then
        match bracketBody? rest with
        | some body => bracketToken body :: tokensFrom (body.length + 1) rest
        | none => .char c :: tokensFrom 0 rest
      else .char c :: tokensFrom 0 rest

/-- Whether `cs` splits into any text and a rest that `rest` accepts. -/
def acceptsAfterAny (rest : List Char → Bool) : List Char → Bool
  | [] => rest []
  | c :: cs => rest (c :: cs) || acceptsAfterAny rest cs

/-- Whether the elements match all of a text. -/
def accepts : List GlobToken → List Char → Bool
  | [], cs => cs.isEmpty
  | .anyText :: tokens, cs => acceptsAfterAny (accepts tokens) cs
  | .anyChar :: tokens, cs =>
    match cs with
    | [] => false
    | _ :: cs => accepts tokens cs
  | .char c :: tokens, cs =>
    match cs with
    | [] => false
    | d :: cs => c == d && accepts tokens cs
  | .oneOf negated ranges :: tokens, cs =>
    match cs with
    | [] => false
    | d :: cs => (ranges.any (fun (low, high) => low ≤ d && d ≤ high) != negated) && accepts tokens cs

/-- Whether a pattern matches all of a text. -/
def wildcardMatch (cs pattern : List Char) : Bool :=
  accepts (tokensFrom 0 pattern) cs

/-- Wildcard match in which each leading `**/` may also stand for nothing. -/
def matchFrom (cs : List Char) : List Char → Bool
  | '*' :: '*' :: '/' :: pattern =>
    wildcardMatch cs ('*' :: '*' :: '/' :: pattern) || matchFrom cs pattern
  | pattern => wildcardMatch cs pattern

end Glob

/-- Whether `pattern` matches `path`. -/
def globMatch (path pattern : String) : Bool :=
  Glob.matchFrom path.toList pattern.toList

end ChangeLens.Text
