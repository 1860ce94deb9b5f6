import ChangeLens.Text.Printable

/-!
# `ChangeLens.Text.Quoted`: a text in quotes, as messages show it

A text stands in single quotes, or in double quotes when it has a single quote and no double one.
The backslash and the surrounding quote are escaped with a backslash, tab, line feed and carriage
return have short escapes, and a character without a picture is written by its code in two, four or
eight hexadecimal digits.
-/

set_option autoImplicit false

namespace ChangeLens.Text

/-- `n` in lower case hexadecimal with at least `width` digits. -/
def hexDigits (width n : Nat) : List Char :=
  let digits := Nat.toDigits 16 n
  List.replicate (width - digits.length) '0' ++ digits

/-- One character of a quoted text. -/
def quotedChar (quote c : Char) : List Char :=
  if c = '\\' || c = quote then ['\\', c]
  else if c = '\n' then ['\\', 'n']
  else if c = '\r' then ['\\', 'r']
  else if c = '\t' then ['\\', 't']
  else if isPrintable c then [c]
  else if c.toNat < 0x100 then '\\' :: 'x' :: hexDigits 2 c.toNat
  else if c.toNat < 0x10000 then '\\' :: 'u' :: hexDigits 4 c.toNat
  else '\\' :: 'U' :: hexDigits 8 c.toNat

/-- The quote that surrounds a text. -/
def quoteFor (cs : List Char) : Char :=
  if cs.contains '\x27' && !cs.contains '"' then '"' else '\x27'

/-- A text in quotes. -/
def quoted (text : String) : String :=
  let cs := text.toList
  let quote := quoteFor cs
  String.ofList (quote :: (cs.flatMap (quotedChar quote) ++ [quote]))

end ChangeLens.Text
