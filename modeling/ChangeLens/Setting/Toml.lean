import ChangeLens.Setting

/-!
# `ChangeLens.Setting.Toml`: reading TOML

`Toml.parse?` reads a document of texts, whole numbers, booleans, arrays and tables. A key is set
once; a table is opened once, by a header or by dotted keys; arrays and inline tables are closed when
they are written. The readers take the rest of the text and answer the rest behind what they read.
Fuel bounds the nesting and the length of repetitions; it is set from the length of the text, which
is never exceeded.
-/

set_option autoImplicit false

namespace ChangeLens.Toml

/-- A place in a document: the keys that lead there. -/
abbrev Path := List String

/-! ### Characters -/

/-- Blanks inside a line. -/
def isSpace (c : Char) : Bool :=
  c == ' ' || c == '\t'

/-- Control characters, which no text may hold as they are; the tab is allowed. -/
def isForbidden (c : Char) : Bool :=
  (c.toNat < 32 && c != '\t') || c.toNat == 127

/-- Characters of keys without quotes. -/
def isBareKey (c : Char) : Bool :=
  c.isAlphanum || c == '_' || c == '-'

/-- The text without the blanks in front. -/
def skipSpaces (cs : List Char) : List Char :=
  cs.dropWhile isSpace

/-- The text behind a comment, which may not hold control characters. -/
def skipComment? (cs : List Char) : Option (List Char) :=
  match cs with
  | '#' :: rest =>
    let comment := rest.takeWhile (· != '\n')
    if comment.any isForbidden then none else some (rest.drop comment.length)
  | _ => some cs

/-- The text behind blanks, line ends and comments. -/
def skipLayout? : Nat → List Char → Option (List Char)
  | 0, cs => some cs
  | fuel + 1, cs =>
    match cs.dropWhile fun c => isSpace c || c == '\n' with
    | '#' :: rest => do skipLayout? fuel (← skipComment? ('#' :: rest))
    | rest => some rest

/-! ### Texts -/

/-- The character with a code of `count` hexadecimal digits. -/
def readCode? (count : Nat) (cs : List Char) : Option (Char × List Char) :=
  let digits := cs.take count
  let isHex (c : Char) := c.isDigit || ('a' ≤ c && c ≤ 'f') || ('A' ≤ c && c ≤ 'F')
  let value (c : Char) :=
    if c.isDigit then c.toNat - 48 else if 'a' ≤ c then c.toNat - 87 else c.toNat - 55
  let code := digits.foldl (fun n c => 16 * n + value c) 0
  if digits.length = count && digits.all isHex && code.isValidChar then
    some (Char.ofNat code, cs.drop count)
  else none

/-- The character that an escape stands for; the text starts behind the backslash. -/
def readEscape? : List Char → Option (Char × List Char)
  | 'b' :: rest => some ('\x08', rest)
  | 't' :: rest => some ('\t', rest)
  | 'n' :: rest => some ('\n', rest)
  | 'f' :: rest => some ('\x0c', rest)
  | 'r' :: rest => some ('\r', rest)
  | '"' :: rest => some ('"', rest)
  | '\\' :: rest => some ('\\', rest)
  | 'u' :: rest => readCode? 4 rest
  | 'U' :: rest => readCode? 8 rest
  | _ => none

/-- A text in double quotes on one line; starts behind the quote. -/
def readBasic? : Nat → List Char → Option (List Char × List Char)
  | 0, _ => none
  | fuel + 1, cs =>
    match cs with
    | [] => none
    | '"' :: rest => some ([], rest)
    | '\\' :: rest => do
      let (c, rest) ← readEscape? rest
      let (more, rest) ← readBasic? fuel rest
      some (c :: more, rest)
    | c :: rest => do
      if isForbidden c then none
      else
        let (more, rest) ← readBasic? fuel rest
        some (c :: more, rest)

/-- A text in single quotes on one line; starts behind the quote. -/
def readLiteral? (cs : List Char) : Option (List Char × List Char) :=
  let text := cs.takeWhile (· != '\x27')
  match cs.drop text.length with
  | _ :: rest => if text.any isForbidden then none else some (text, rest)
  | [] => none

/-- Up to two more quotes belong to a text of several lines. -/
def closeLong (quote : Char) (cs : List Char) : List Char × List Char :=
  match cs with
  | a :: b :: rest =>
    if a = quote && b = quote then ([a, b], rest)
    else if a = quote then ([a], b :: rest)
    else ([], cs)
  | [a] => if a = quote then ([a], []) else ([], cs)
  | [] => ([], [])

/-- A line end behind a backslash takes the blanks around it along. -/
def skipLineEnd? (cs : List Char) : Option (List Char) :=
  match skipSpaces cs with
  | '\n' :: rest => some (rest.dropWhile fun c => isSpace c || c == '\n')
  | _ => none

/-- A text of several lines in double quotes; starts behind the quotes. -/
def readLongBasic? : Nat → List Char → Option (List Char × List Char)
  | 0, _ => none
  | fuel + 1, cs =>
    match cs with
    | [] => none
    | '"' :: '"' :: '"' :: rest => some (closeLong '"' rest)
    | '\\' :: rest =>
      match rest.head?.any fun c => isSpace c || c == '\n' with
      | true => do readLongBasic? fuel (← skipLineEnd? rest)
      | false => do
        let (c, rest) ← readEscape? rest
        let (more, rest) ← readLongBasic? fuel rest
        some (c :: more, rest)
    | c :: rest => do
      if isForbidden c && c != '\n' then none
      else
        let (more, rest) ← readLongBasic? fuel rest
        some (c :: more, rest)

/-- A text of several lines in single quotes; starts behind the quotes. -/
def readLongLiteral? : List Char → Option (List Char × List Char)
  | [] => none
  | '\x27' :: '\x27' :: '\x27' :: rest => some (closeLong '\x27' rest)
  | c :: rest => do
    if isForbidden c && c != '\n' then none
    else
      let (more, rest) ← readLongLiteral? rest
      some (c :: more, rest)

/-- A line end right behind the opening quotes does not belong to the text. -/
def skipFirstLineEnd : List Char → List Char
  | '\n' :: rest => rest
  | cs => cs

/-- A text in any quotes, if there is one here. -/
def readText? (cs : List Char) : Option (String × List Char) :=
  let found :=
    match cs with
    | '"' :: '"' :: '"' :: rest => readLongBasic? (cs.length + 1) (skipFirstLineEnd rest)
    | '"' :: rest => readBasic? (cs.length + 1) rest
    | '\x27' :: '\x27' :: '\x27' :: rest => readLongLiteral? (skipFirstLineEnd rest)
    | '\x27' :: rest => readLiteral? rest
    | _ => none
  found.map fun (text, rest) => (String.ofList text, rest)

/-! ### Numbers -/

/-- Digits with single underscores between them; answers the digits and the rest. -/
def readDigits? (isDigit : Char → Bool) : List Char → Option (List Char × List Char)
  | c :: '_' :: next =>
    if isDigit c then
      match readDigits? isDigit next with
      | some (more, rest) => some (c :: more, rest)
      | none => some ([c], '_' :: next)
    else none
  | c :: next =>
    if isDigit c then
      match readDigits? isDigit next with
      | some (more, rest) => some (c :: more, rest)
      | none => some ([c], next)
    else none
  | [] => none

/-- The number that digits of a base write. -/
def digitsIn (base : Nat) (digits : List Char) : Nat :=
  digits.foldl (fun n c =>
    base * n + (if c.isDigit then c.toNat - 48 else if 'a' ≤ c then c.toNat - 87 else c.toNat - 55)) 0

/-- Whether a point or an exponent follows, which would make the number no whole one. -/
def startsFraction (cs : List Char) : Bool :=
  match cs with
  | '.' :: c :: _ => c.isDigit
  | 'e' :: '+' :: c :: _ | 'e' :: '-' :: c :: _ | 'E' :: '+' :: c :: _ | 'E' :: '-' :: c :: _ =>
    c.isDigit
  | 'e' :: c :: _ | 'E' :: c :: _ => c.isDigit
  | _ => false

/-- A whole number without sign in decimal digits, with no zero in front. -/
def readDecimal? (cs : List Char) : Option (Int × List Char) :=
  let number :=
    match cs with
    | '0' :: rest => some (['0'], rest)
    | _ => readDigits? Char.isDigit cs
  number.bind fun (digits, rest) =>
    if startsFraction rest then none else some ((digitsIn 10 digits : Int), rest)

/-- A whole number, in decimal with a sign or in a base of two, eight or sixteen without. -/
def readNumber? (cs : List Char) : Option (Int × List Char) :=
  let inBase (base : Nat) (isDigit : Char → Bool) (rest : List Char) :=
    match readDigits? isDigit rest with
    | some (digits, rest) => some ((digitsIn base digits : Int), rest)
    | none => some (0, cs.drop 1)
  match cs with
  | '0' :: 'x' :: rest =>
    inBase 16 (fun c => c.isDigit || ('a' ≤ c && c ≤ 'f') || ('A' ≤ c && c ≤ 'F')) rest
  | '0' :: 'o' :: rest => inBase 8 (fun c => '0' ≤ c && c ≤ '7') rest
  | '0' :: 'b' :: rest => inBase 2 (fun c => c == '0' || c == '1') rest
  | '-' :: rest => (readDecimal? rest).map fun (n, rest) => (-n, rest)
  | '+' :: rest => readDecimal? rest
  | _ => readDecimal? cs

/-! ### Keys -/

/-- One part of a key, bare or in quotes. -/
def readKeyPart? (cs : List Char) : Option (String × List Char) :=
  match cs with
  | '"' :: rest =>
    (readBasic? (cs.length + 1) rest).map fun (text, rest) => (String.ofList text, rest)
  | '\x27' :: rest => (readLiteral? rest).map fun (text, rest) => (String.ofList text, rest)
  | _ =>
    let part := cs.takeWhile isBareKey
    if part.isEmpty then none else some (String.ofList part, cs.drop part.length)

/-- A key: parts joined by dots, with blanks around the dots. -/
def readKey? : Nat → List Char → Option (Path × List Char)
  | 0, _ => none
  | fuel + 1, cs => do
    let (part, rest) ← readKeyPart? cs
    match skipSpaces rest with
    | '.' :: rest =>
      let (more, rest) ← readKey? fuel (skipSpaces rest)
      some (part :: more, rest)
    | rest => some ([part], rest)

/-! ### Tables -/

/-- Changes the table at a place, which is made if it is not there. Behind an array of tables the
place goes on in its last table if `intoLists` says so. Fails at a value that is no table. -/
def alterAt? (intoLists : Bool) (change : Entries → Option Entries) :
    Path → Entries → Option Entries
  | [], entries => change entries
  | key :: path, entries =>
    match Setting.lookup? key entries with
    | none => do
      let inner ← alterAt? intoLists change path []
      some (Setting.put key (.table inner) entries)
    | some (.table inner) => do
      let inner ← alterAt? intoLists change path inner
      some (Setting.put key (.table inner) entries)
    | some (.list items) =>
      -- A header below an array of tables goes on in the table that was opened last.
      match intoLists, items.getLast? with
      | true, some (.table inner) => do
        let inner ← alterAt? intoLists change path inner
        some (Setting.put key (.list (items.dropLast ++ [.table inner])) entries)
      | _, _ => none
    | some _ => none

/-- Sets a key that the table does not have yet. -/
def insertNew? (key : String) (value : Setting) (entries : Entries) : Option Entries :=
  if (Setting.lookup? key entries).isSome then none else some (entries ++ [(key, value)])

/-- Adds an empty table to an array of tables, which is made if it is not there. -/
def appendTable? (key : String) (entries : Entries) : Option Entries :=
  match Setting.lookup? key entries with
  | none => some (entries ++ [(key, .list [.table []])])
  | some (.list items) => some (Setting.put key (.list (items ++ [.table []])) entries)
  | some _ => none

/-- Whether a value is closed when it is written. -/
def isClosed : Setting → Bool
  | .list _ | .table _ => true
  | _ => false

/-- Whether one of the places is at or above this one. -/
def covers (places : List Path) (path : Path) : Bool :=
  places.any fun place => place.isPrefixOf path

/-- The places that a path passes below a header. -/
def passed (header path : Path) : List Path :=
  (List.range path.length).tail.map fun n => header ++ path.take n

/-! ### Values -/

mutual

/-- A value. -/
def readValue? : Nat → List Char → Option (Setting × List Char)
  | 0, _ => none
  | fuel + 1, cs =>
    match cs with
    | 't' :: 'r' :: 'u' :: 'e' :: rest => some (.switch true, rest)
    | 'f' :: 'a' :: 'l' :: 's' :: 'e' :: rest => some (.switch false, rest)
    | '[' :: rest => do
      let rest ← skipLayout? rest.length rest
      let (items, rest) ← readItems? fuel rest
      some (.list items, rest)
    | '\x7b' :: rest =>
      match skipSpaces rest with
      | '\x7d' :: rest => some (.table [], rest)
      | rest => do
        let (entries, rest) ← readInline? fuel [] [] rest
        some (.table entries, rest)
    | c :: _ =>
      if c = '"' || c = '\x27' then (readText? cs).map fun (text, rest) => (.text text, rest)
      else (readNumber? cs).map fun (number, rest) => (.number number, rest)
    | [] => none

/-- The items of an array up to its bracket; a comma may stand behind the last one. -/
def readItems? : Nat → List Char → Option (List Setting × List Char)
  | 0, _ => none
  | fuel + 1, cs =>
    match cs with
    | ']' :: rest => some ([], rest)
    | _ => do
      let (item, rest) ← readValue? fuel cs
      let rest ← skipLayout? rest.length rest
      match rest with
      | ']' :: rest => some ([item], rest)
      | ',' :: rest =>
        let rest ← skipLayout? rest.length rest
        let (more, rest) ← readItems? fuel rest
        some (item :: more, rest)
      | _ => none

/-- The entries of an inline table up to its bracket; no comma may stand behind the last one. -/
def readInline? : Nat → List Path → Entries → List Char → Option (Entries × List Char)
  | 0, _, _, _ => none
  | fuel + 1, closed, entries, cs => do
    let (key, rest) ← readKey? (cs.length + 1) cs
    match rest with
    | '=' :: rest =>
      let (value, rest) ← readValue? fuel (skipSpaces rest)
      if covers closed key then none
      else
        let entries ←
          alterAt? false (insertNew? (key.getLast?.getD "") value) key.dropLast entries
        match skipSpaces rest with
        | '\x7d' :: rest => some (entries, rest)
        | ',' :: rest =>
          let closed := if isClosed value then key :: closed else closed
          readInline? fuel closed entries (skipSpaces rest)
        | _ => none
    | _ => none

end

/-! ### Documents -/

/-- What was read of a document. -/
structure Document where
  /-- The document itself. -/
  entries : Entries := []
  /-- The table that entries go to. -/
  header : Path := []
  /-- Places that no header may open again. -/
  opened : List Path := []
  /-- Places that dotted keys opened below the current header. -/
  pending : List Path := []
  /-- Places of arrays and inline tables, closed with everything below them. -/
  closed : List Path := []

/-- Opens a table. -/
def Document.openTable? (document : Document) (path : Path) : Option Document := do
  let opened := document.opened ++ document.pending
  if opened.contains path || covers document.closed path then none
  else
    -- The table may be there already, made on the way to another one.
    let entries ← alterAt? true some path document.entries
    some { document with entries, header := path, opened := path :: opened, pending := [] }

/-- Opens the next table of an array of tables; what its last table opened counts no more. -/
def Document.openItem? (document : Document) (path : Path) : Option Document := do
  if covers document.closed path then none
  else
    let isBelow (place : Path) := path.isPrefixOf place
    let opened := (document.opened ++ document.pending).filter (!isBelow ·)
    let closed := document.closed.filter (!isBelow ·)
    let entries ←
      alterAt? true (appendTable? (path.getLast?.getD "")) path.dropLast document.entries
    some { entries, header := path, opened := path :: opened, pending := [], closed }

/-- Sets a key below the current header. -/
def Document.set? (document : Document) (key : Path) (value : Setting) : Option Document := do
  -- Dotted keys may not reach into a table that a header has opened.
  let places := passed document.header key
  let place := document.header ++ key
  if places.any document.opened.contains || covers document.closed place.dropLast then none
  else
    let entries ←
      alterAt? true (insertNew? (key.getLast?.getD "") value) place.dropLast document.entries
    some
      { document with
        entries
        pending := places ++ document.pending
        closed := if isClosed value then place :: document.closed else document.closed }

/-- One statement, which starts with its first character: a header or a key with its value. -/
def readStatement? (document : Document) (cs : List Char) : Option (Document × List Char) :=
  match cs with
  | '[' :: '[' :: rest => do
    let (path, rest) ← readKey? (rest.length + 1) (skipSpaces rest)
    let document ← document.openItem? path
    match rest with
    | ']' :: ']' :: rest => some (document, rest)
    | _ => none
  | '[' :: rest => do
    let (path, rest) ← readKey? (rest.length + 1) (skipSpaces rest)
    let document ← document.openTable? path
    match rest with
    | ']' :: rest => some (document, rest)
    | _ => none
  | '#' :: _ => some (document, cs)
  | _ => do
    let (key, rest) ← readKey? (cs.length + 1) cs
    match rest with
    | '=' :: rest =>
      let (value, rest) ← readValue? (rest.length + 1) (skipSpaces rest)
      let document ← document.set? key value
      some (document, rest)
    | _ => none

/-- The statements of a document, one a line. -/
def readStatements? : Nat → Document → List Char → Option Document
  | 0, _, _ => none
  | fuel + 1, document, cs =>
    match skipSpaces cs with
    | [] => some document
    | '\n' :: rest => readStatements? fuel document rest
    | cs => do
      let (document, rest) ← readStatement? document cs
      match ← skipComment? (skipSpaces rest) with
      | [] => some document
      | '\n' :: rest => readStatements? fuel document rest
      | _ => none

/-- Line feeds for the pairs of carriage return and line feed. -/
def unifyPairs : List Char → List Char
  | '\r' :: '\n' :: rest => '\n' :: unifyPairs rest
  | c :: rest => c :: unifyPairs rest
  | [] => []

/-- The entries of a document, if it is well-formed. -/
def parse? (text : String) : Option Entries :=
  let cs := unifyPairs text.toList
  (readStatements? (cs.length + 1) {} cs).map (·.entries)

end ChangeLens.Toml
