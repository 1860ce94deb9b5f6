/-!
# `ChangeLens.Text.Search`: finding, cutting and replacing fixed pieces of text

Everything recurses on the list of characters, so each function unfolds one character at a time.
-/

set_option autoImplicit false

namespace ChangeLens.Text

/-- The pieces of `cs` between the separators. There is always one piece more than separators. -/
def splitAtChar (separator : Char) : List Char → List (List Char)
  | [] => [[]]
  | c :: rest =>
    if c = separator then [] :: splitAtChar separator rest
    else
      match splitAtChar separator rest with
      | [] => [[c]]
      | piece :: more => (c :: piece) :: more

/-- Whether `needle` stands somewhere in `cs`. -/
def containsText (needle : List Char) : List Char → Bool
  | [] => needle.isEmpty
  | c :: rest => needle.isPrefixOf (c :: rest) || containsText needle rest

/-- What stands after the first `needle`, if there is one. -/
def afterFirst (needle : List Char) : List Char → Option (List Char)
  | [] => if needle.isEmpty then some [] else none
  | c :: rest =>
    if needle.isPrefixOf (c :: rest) then some ((c :: rest).drop needle.length)
    else afterFirst needle rest

/-- The part of `cs` after the last `separator`; all of `cs` if there is none. -/
def afterLastChar (separator : Char) (cs : List Char) : List Char :=
  (cs.reverse.takeWhile (· != separator)).reverse

/-- Whether `text` starts with `start`. -/
def startsWith (start text : String) : Bool :=
  start.toList.isPrefixOf text.toList

/-- Whether `text` ends with `ending`. -/
def endsWith (ending text : String) : Bool :=
  ending.toList.isSuffixOf text.toList

/-- `text` without its first `n` characters. -/
def dropFirst (n : Nat) (text : String) : String :=
  String.ofList (text.toList.drop n)

/-- The first `n` characters of `text`. -/
def takeFirst (n : Nat) (text : String) : String :=
  String.ofList (text.toList.take n)

/-- Lower case for the letters A to Z; every other character stays. -/
def toLowerAscii (text : String) : String :=
  String.ofList (text.toList.map Char.toLower)

/-- `texts` with `separator` between neighbours. -/
def join (separator : String) (texts : List String) : String :=
  String.intercalate separator texts

/-- The texts in ascending order of their code points; equal texts keep their order. -/
def sorted (texts : List String) : List String :=
  texts.mergeSort fun a b => !decide (b < a)

end ChangeLens.Text
