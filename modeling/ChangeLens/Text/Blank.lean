/-!
# `ChangeLens.Text.Blank`: blank characters, trimming and runs of blanks

A *blank* is a character of the Unicode property `White_Space` or one of the four information
separators U+001C to U+001F. All layout rules of the library (trimming, collapsing runs, splitting
into words) use this one class. They work on `List Char`; the versions on `String` wrap them.
-/

set_option autoImplicit false

namespace ChangeLens.Text

/-- Blank characters: `White_Space` and the information separators. -/
def isBlank (c : Char) : Bool :=
  let n := c.toNat
  n == 0x20 || (0x09 ≤ n && n ≤ 0x0d) || (0x1c ≤ n && n ≤ 0x1f) || n == 0x85 || n == 0xa0 ||
    n == 0x1680 || (0x2000 ≤ n && n ≤ 0x200a) || n == 0x2028 || n == 0x2029 || n == 0x202f ||
    n == 0x205f || n == 0x3000

/-- Drops the characters that satisfy `p` at the end. -/
def dropWhileEnd (p : Char → Bool) (cs : List Char) : List Char :=
  (cs.reverse.dropWhile p).reverse

/-- Drops the characters that satisfy `p` at both ends. -/
def stripWhile (p : Char → Bool) (cs : List Char) : List Char :=
  dropWhileEnd p (cs.dropWhile p)

/-- `text` without the blanks at both ends. -/
def trim (text : String) : String :=
  String.ofList (stripWhile isBlank text.toList)

/-- `text` without the characters of `drop` at both ends. -/
def trimChars (drop : List Char) (text : String) : String :=
  String.ofList (stripWhile (drop.contains ·) text.toList)

/-- Every run of blanks becomes one space. `inRun` says that the run's space is already written. -/
def collapseRuns (inRun : Bool) : List Char → List Char
  | [] => []
  | c :: rest =>
    if isBlank c then
      if inRun then collapseRuns true rest else ' ' :: collapseRuns true rest
    else c :: collapseRuns false rest

/-- Runs of blanks as single spaces, none at the ends. -/
def collapseBlanks (cs : List Char) : List Char :=
  stripWhile isBlank (collapseRuns false cs)

/-- Maximal pieces of `cs` without blanks; `word` holds the piece being read, reversed. -/
def wordsFrom (word : List Char) : List Char → List (List Char)
  | [] => if word.isEmpty then [] else [word.reverse]
  | c :: rest =>
    if isBlank c then
      if word.isEmpty then wordsFrom [] rest else word.reverse :: wordsFrom [] rest
    else wordsFrom (c :: word) rest

/-- The words of a text: its maximal pieces without blanks. -/
def words (cs : List Char) : List (List Char) :=
  wordsFrom [] cs

/-- Whether a text has no character that is not blank. -/
def isBlankText (text : String) : Bool :=
  text.toList.all isBlank

end ChangeLens.Text
