/-!
# `ChangeLens.Text.Substitute`: one left-to-right pass of a rewriting rule

A `Rule` looks at one position of a text. Where it applies it says how many characters it takes
away and what stands there instead. `substitute` applies a rule from left to right: after a
replacement it goes on behind the characters taken away, so replaced text is not looked at again.
-/

set_option autoImplicit false

namespace ChangeLens.Text

/-- A rewriting rule sees the character before a position, if there is one, and the text from that
position on. It answers the number of characters taken away (an answer of zero characters counts
as no match) and the text put in their place. -/
abbrev Rule := Option Char → List Char → Option (Nat × List Char)

/-- The pass of `substitute` at one position. `before` is the character before it; the first `skip`
characters belong to a match already replaced. -/
def substituteFrom (rule : Rule) (before : Option Char) (skip : Nat) : List Char → List Char
  | [] => []
  | c :: rest =>
    match skip with
    | skip + 1 => substituteFrom rule (some c) skip rest
    | 0 =>
      match rule before (c :: rest) with
      | some (taken + 1, put) => put ++ substituteFrom rule (some c) taken rest
      | _ => c :: substituteFrom rule (some c) 0 rest

/-- Replaces every match of `rule`, from left to right. -/
def substitute (rule : Rule) (cs : List Char) : List Char :=
  substituteFrom rule none 0 cs

/-- The rule that replaces a fixed non-empty text. -/
def Rule.fixed (needle put : List Char) : Rule := fun _ cs =>
  if needle.isPrefixOf cs then some (needle.length, put) else none

/-- `text` with every `needle` replaced by `put`. -/
def replaceAll (needle put text : String) : String :=
  String.ofList (substitute (Rule.fixed needle.toList put.toList) text.toList)

end ChangeLens.Text
