import ChangeLens.Text.Quoted

/-!
# `ChangeLens.Json`: values of the JSON format and their written form

The members of an object keep their order. The written form has one item or member a line, indented
by two spaces for each level, and holds printable ASCII characters only: everything else in a text
is written by its UTF-16 units.
-/

set_option autoImplicit false

namespace ChangeLens

/-- A JSON value, as far as reports need them. -/
inductive Json where
  /-- True or false. -/
  | switch (on : Bool)
  /-- A whole number. -/
  | number (value : Int)
  /-- A text. -/
  | text (value : String)
  /-- A list of values. -/
  | list (items : List Json)
  /-- Named values, in order. -/
  | object (members : List (String × Json))
deriving Repr

namespace Json

/-! ### Texts -/

/-- A UTF-16 unit as an escape. -/
def unitEscape (unit : Nat) : List Char :=
  '\\' :: 'u' :: Text.hexDigits 4 unit

/-- Whether a character is written as it is. -/
def isPlain (c : Char) : Bool :=
  ' ' ≤ c && c ≤ '~' && c != '"' && c != '\\'

/-- The letter behind the backslash for the characters that have a short escape. -/
def shortEscape? : Char → Option Char
  | '"' => some '"'
  | '\\' => some '\\'
  | '\n' => some 'n'
  | '\r' => some 'r'
  | '\t' => some 't'
  | '\x08' => some 'b'
  | '\x0c' => some 'f'
  | _ => none

/-- A character inside a written text. One beyond the first plane takes two units. -/
def writeChar (c : Char) : List Char :=
  if isPlain c then [c]
  else
    match shortEscape? c with
    | some letter => ['\\', letter]
    | none =>
      if c.toNat < 0x10000 then unitEscape c.toNat
      else
        unitEscape (0xd800 + (c.toNat - 0x10000) / 0x400) ++
          unitEscape (0xdc00 + (c.toNat - 0x10000) % 0x400)

/-- A written text. -/
def writeText (text : String) : List Char :=
  '"' :: (text.toList.flatMap writeChar ++ ['"'])

/-! ### Values -/

/-- A line end and the indentation of a level. -/
def lineStart (level : Nat) : List Char :=
  '\n' :: List.replicate (2 * level) ' '

mutual

/-- The written form of a value at a level. -/
def write (level : Nat) : Json → List Char
  | switch true => ['t', 'r', 'u', 'e']
  | switch false => ['f', 'a', 'l', 's', 'e']
  | number value => (toString value).toList
  | text value => writeText value
  | list [] => ['[', ']']
  | list (item :: rest) =>
    '[' :: (lineStart (level + 1) ++ write (level + 1) item ++ writeItems (level + 1) rest ++
      lineStart level ++ [']'])
  | object [] => ['\x7b', '\x7d']
  | object ((key, value) :: rest) =>
    '\x7b' :: (lineStart (level + 1) ++ writeText key ++ [':', ' '] ++ write (level + 1) value ++
      writeMembers (level + 1) rest ++ lineStart level ++ ['\x7d'])

/-- The items of a list after the first one. -/
def writeItems (level : Nat) : List Json → List Char
  | [] => []
  | item :: rest => ',' :: (lineStart level ++ write level item ++ writeItems level rest)

/-- The members of an object after the first one. -/
def writeMembers (level : Nat) : List (String × Json) → List Char
  | [] => []
  | (key, value) :: rest =>
    ',' :: (lineStart level ++ writeText key ++ [':', ' '] ++ write level value ++
      writeMembers level rest)

end

/-- The written form of a value. -/
def render (value : Json) : String :=
  String.ofList (write 0 value)

end Json

end ChangeLens
