import ChangeLens.Text.Blank
import ChangeLens.Text.Digit
import ChangeLens.Text.Search
import ChangeLens.Text.Substitute
import ChangeLens.Text.Word

/-!
# `ChangeLens.TypeText`: two spellings of one type get one text

`normalize` takes comments and layout out of a type annotation and writes `Array<T>` as `T[]` and
`Partial<Pick<A,B>>` as `Pick<Partial<A>,B>`. `canonical` moreover sorts the members of a union and
of an intersection at the top level. `splitTopLevel` is the cut that both sorting steps rest on: it
cuts only outside brackets and string literals.
-/

set_option autoImplicit false

namespace ChangeLens.TypeText

open ChangeLens.Text

/-! ### Comments and layout -/

/-- A block comment ends at the first `*/` after its start; one that does not end is text. -/
def blockComment : Rule
  | _, '/' :: '*' :: rest =>
    (afterFirst ['*', '/'] rest).map fun after => (2 + (rest.length - after.length), [])
  | _, _ => none

/-- A line comment starts with `//` at the start of a line or after a character other than a colon,
and runs to the end of the line. The character before it stays. -/
def lineComment : Rule := fun before cs =>
  let taken (rest : List Char) := (rest.takeWhile (· != '\n')).length
  let atLineStart := before.isNone || before == some '\n'
  match atLineStart, cs with
  | true, '/' :: '/' :: rest => some (2 + taken rest, [])
  -- The colon keeps addresses such as `http://…` in literals whole.
  | _, c :: '/' :: '/' :: rest => if c = ':' then none else some (3 + taken rest, [c])
  | _, _ => none

/-- The text without block and line comments. -/
def stripComments (cs : List Char) : List Char :=
  substitute lineComment (substitute blockComment cs)

/-- Drops the blanks around every character that satisfies `tight`. `after` says that such a
character was just written. -/
def tighten (tight : Char → Bool) (after : Bool) : List Char → List Char
  | [] => []
  | c :: rest =>
    if tight c then c :: tighten tight true rest
    -- A blank goes when its run touches such a character on either side.
    else if isBlank c && (after || (rest.dropWhile isBlank).head?.any tight) then
      tighten tight after rest
    else c :: tighten tight false rest

/-- Brackets and separators of type texts. -/
def isPunctuation (c : Char) : Bool :=
  ['\x7b', '\x7d', '(', ')', ':', ';', ',', '|', '&', '<', '>', '[', ']'].contains c

/-- The text without comments, with no blanks around punctuation and single spaces elsewhere. -/
def tidy (cs : List Char) : List Char :=
  tighten (· == '=') false (tighten isPunctuation false (collapseBlanks (stripComments cs)))

/-! ### Spellings of one type -/

/-- Reads `<…>` groups without inner angle brackets, as many as there are. Answers the number of
characters read. A group that does not close this way is not read. -/
def groupsLength : Nat → List Char → Nat
  | 0, _ => 0
  | fuel + 1, cs =>
    match cs with
    | '<' :: rest =>
      let inner := rest.takeWhile fun c => c != '<' && c != '>'
      match rest.drop inner.length with
      | '>' :: after => inner.length + 2 + groupsLength fuel after
      | _ => 0
    | _ => 0

/-- Reads a type argument: a non-empty run of characters that are neither angle brackets nor in
`stop`, then `<…>` groups. Answers the argument and what follows it. -/
def argument? (stop : List Char) (cs : List Char) : Option (List Char × List Char) :=
  let name := cs.takeWhile fun c => c != '<' && c != '>' && !stop.contains c
  if name.isEmpty then none
  else
    let rest := cs.drop name.length
    let groups := groupsLength rest.length rest
    some (name ++ rest.take groups, rest.drop groups)

/-- What follows `word` when it stands here at the start of a word. -/
def afterWord? (word : List Char) (before : Option Char) (cs : List Char) : Option (List Char) :=
  if !before.any isWord && word.isPrefixOf cs then some (cs.drop word.length) else none

/-- `Array<T>` is written `T[]`. -/
def arrayRule : Rule := fun before cs => do
  let rest ← afterWord? "Array<".toList before cs
  let (element, after) ← argument? [] rest
  match after with
  | '>' :: after => some (cs.length - after.length, element ++ ['[', ']'])
  | _ => none

/-- `Partial<Pick<A,B>>` is written `Pick<Partial<A>,B>`. -/
def partialPickRule : Rule := fun before cs => do
  let rest ← afterWord? "Partial<Pick<".toList before cs
  let (whole, after) ← argument? [','] rest
  match after with
  | ',' :: rest =>
    let (keys, after) ← argument? [] rest
    match after with
    | '>' :: '>' :: after =>
      some (cs.length - after.length,
        "Pick<Partial<".toList ++ whole ++ ['>', ','] ++ keys ++ ['>'])
    | _ => none
  | _ => none

/-- One pass of both spellings. -/
def respell (cs : List Char) : List Char :=
  substitute partialPickRule (substitute arrayRule cs)

/-- At most `passes` passes, until one changes nothing: a pass can expose new matches, as in
`Array<Array<T>>`. -/
def respellUpTo : Nat → List Char → List Char
  | 0, cs => cs
  | passes + 1, cs =>
    let next := respell cs
    if next = cs then cs else respellUpTo passes next

/-- The greatest number of passes. -/
def maxPasses : Nat := 10

/-- A type text without comments and layout, in the preferred spelling. -/
def normalizeChars (cs : List Char) : List Char :=
  respellUpTo maxPasses (tidy cs)

/-! ### Members of unions and intersections -/

/-- Where the scan of `splitTopLevel` stands. -/
structure Scan where
  /-- How many brackets are open. -/
  depth : Nat := 0
  /-- The quote of the string literal that is open. -/
  quote : Option Char := none
  /-- The character just read. -/
  previous : Option Char := none
deriving Repr, DecidableEq

/-- The scan after one more character. A closing bracket without its opening one counts for
nothing, nor does the `>` of `=>`; an escaped quote does not close a literal. -/
def Scan.next (scan : Scan) (c : Char) : Scan :=
  match scan.quote with
  | some quote =>
    { scan with
      quote := if c = quote && scan.previous != some '\\' then none else some quote
      previous := some c }
  | none =>
    if c = '\x27' || c = '"' || c = '\x60' then { scan with quote := some c, previous := some c }
    else if ['(', '[', '\x7b', '<'].contains c then
      { scan with depth := scan.depth + 1, previous := some c }
    else if [')', ']', '\x7d', '>'].contains c && !(c = '>' && scan.previous == some '=') then
      { scan with depth := scan.depth - 1, previous := some c }
    else { scan with previous := some c }

/-- Whether `c` is a separator where the scan stands: outside brackets and literals. -/
def Scan.isCut (scan : Scan) (separator c : Char) : Bool :=
  scan.quote.isNone && scan.depth == 0 && c == separator &&
    !(['\x27', '"', '\x60', '(', '[', '\x7b', '<'].contains c) &&
    !([')', ']', '\x7d', '>'].contains c && !(c = '>' && scan.previous == some '='))

/-- The pieces of the rest of a text; `piece` holds what was read of the current one, reversed. -/
def splitFrom (separator : Char) (scan : Scan) (piece : List Char) : List Char → List (List Char)
  | [] => [piece.reverse]
  | c :: rest =>
    if scan.isCut separator c then
      piece.reverse :: splitFrom separator (scan.next c) [] rest
    else splitFrom separator (scan.next c) (c :: piece) rest

/-- The pieces of a text between the separators outside brackets and string literals. -/
def splitTopLevel (separator : Char) (cs : List Char) : List (List Char) :=
  splitFrom separator {} [] cs

/-- Pieces in ascending order of their code points. -/
def sortPieces (pieces : List (List Char)) : List (List Char) :=
  pieces.mergeSort fun a b => !decide (b < a)

/-- The members at the top level in ascending order; a text with fewer than two members stays. -/
def sortMembers (separator : Char) (cs : List Char) : List Char :=
  let members := (splitTopLevel separator cs).filter (!·.isEmpty)
  if members.length < 2 then cs else [separator].intercalate (sortPieces members)

/-- The union sorted first, then the intersection inside each of its members. -/
def sortUnionsAndIntersections (cs : List Char) : List Char :=
  -- The union is cut again after it is sorted, so its members keep their new order.
  let union := if cs.contains '|' then sortMembers '|' cs else cs
  if union.contains '&' then
    ['|'].intercalate ((splitTopLevel '|' union).map (sortMembers '&'))
  else union

/-- Normalized text with the order of union and intersection members folded. -/
def canonicalChars (cs : List Char) : List Char :=
  sortUnionsAndIntersections (normalizeChars cs)

/-! ### On `String` -/

/-- A type text without comments and layout, in the preferred spelling. -/
def normalize (text : String) : String :=
  String.ofList (normalizeChars text.toList)

/-- Normalized text with the order of union and intersection members folded. -/
def canonical (text : String) : String :=
  String.ofList (canonicalChars text.toList)

/-! ### Literal types -/

/-- Whether the text is a literal in this quote that holds the quote nowhere inside. -/
def isQuotedLiteral (quote : Char) (cs : List Char) : Bool :=
  match cs with
  | c :: rest => c == quote && rest.getLast? == some quote && !rest.dropLast.contains quote
  | [] => false

/-- Digits, then perhaps a point and more digits. -/
def isUnsignedNumber (cs : List Char) : Bool :=
  let whole := cs.takeWhile isDigit
  !whole.isEmpty &&
    match cs.drop whole.length with
    | [] => true
    | '.' :: places => !places.isEmpty && places.all isDigit
    | _ => false

/-- Whether a type text is a string, number or boolean literal: a brand or a discriminant. -/
def isLiteral (text : String) : Bool :=
  let cs := stripWhile isBlank text.toList
  isQuotedLiteral '\x27' cs || isQuotedLiteral '"' cs || isQuotedLiteral '\x60' cs ||
    isUnsignedNumber (match cs with
      | '-' :: rest => rest
      | rest => rest) ||
    cs == "true".toList || cs == "false".toList

end ChangeLens.TypeText
