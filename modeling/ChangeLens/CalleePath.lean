import ChangeLens.Text.Blank
import ChangeLens.Text.Search
import ChangeLens.Text.Substitute

/-!
# `ChangeLens.CalleePath`: the dotted path of a callee

`a.b`, `a?.b` and `a["b"]` call the same thing. `normalize` folds optional chaining and bracket
access with a string literal into dots, so that callees compare by their segments.
-/

set_option autoImplicit false

namespace ChangeLens.CalleePath

open ChangeLens.Text

/-- A bracket around one string literal, blanks inside the bracket allowed, is written as a dot and
the content of the literal. The content holds neither quotes nor a closing bracket. -/
def bracketAccess : Rule
  | _, '[' :: rest =>
    let rest' := rest.dropWhile isBlank
    match rest' with
    | quote :: rest'' =>
      if quote = '\x27' || quote = '"' then
        let segment := rest''.takeWhile fun c => c != '\x27' && c != '"' && c != ']'
        match rest''.drop segment.length with
        | close :: after =>
          if close = quote then
            match after.dropWhile isBlank with
            | ']' :: after => some (1 + (rest.length - after.length), '.' :: segment)
            | _ => none
          else none
        | [] => none
      else none
    | [] => none
  | _, _ => none

/-- Runs of dots become one dot. `inRun` says that the last character written is a dot. -/
def collapseDots (inRun : Bool) : List Char → List Char
  | [] => []
  | c :: rest =>
    if c = '.' then if inRun then collapseDots true rest else c :: collapseDots true rest
    else c :: collapseDots false rest

/-- The dotted path of a callee. -/
def normalizeChars (cs : List Char) : List Char :=
  let dotted := substitute bracketAccess (substitute (Rule.fixed ['?', '.'] ['.']) cs)
  stripWhile (· == '.') (collapseDots false dotted)

/-- The dotted path of a callee. -/
def normalize (callee : String) : String :=
  String.ofList (normalizeChars callee.toList)

/-- The path without its first segment (`this.api.get` becomes `api.get`); a single segment stays. -/
def suffix (path : String) : String :=
  match path.toList.dropWhile (· != '.') with
  | _ :: rest => String.ofList rest
  | [] => path

/-- The last segment of a path. -/
def lastSegment (path : String) : String :=
  String.ofList (afterLastChar '.' path.toList)

end ChangeLens.CalleePath
