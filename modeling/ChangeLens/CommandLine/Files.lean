import ChangeLens.Text.Blank
import ChangeLens.Text.Lines
import ChangeLens.Text.Search

/-!
# `ChangeLens.CommandLine.Files`: the list of files of a run

Files come from an option, with commas between them, and from the input, one a line. Blanks around
a path do not count, and each path counts once.
-/

set_option autoImplicit false

namespace ChangeLens.CommandLine

/-- The pieces of a text between separators, without the blanks around them. -/
def pieces (separator : Char) (text : String) : List String :=
  (Text.splitAtChar separator text.toList).map fun piece => Text.trim (String.ofList piece)

/-- The lines of an input, without the blanks around them. -/
def inputLines (input : String) : List String :=
  pieces '\n' (String.ofList (Text.unifyLineEnds input.toList))

/-- The files of a run, each once, in order. -/
def fileList (files input : Option String) : List String :=
  let paths := (files.map (pieces ',')).getD [] ++ (input.map inputLines).getD []
  (paths.filter (!·.isEmpty)).eraseDups

end ChangeLens.CommandLine
