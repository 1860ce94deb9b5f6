import ChangeLens.Text.Blank
import ChangeLens.Text.Digit

/-!
# `ChangeLens.Setting.Integer`: whole numbers in environment variables

White space around the number and a sign in front of it are allowed, and so are decimal digits of
any script and single underscores between two digits.
-/

set_option autoImplicit false

namespace ChangeLens.Setting

open ChangeLens.Text

/-- Reads digits with single underscores between them. `afterDigit` says that the last character
was a digit. -/
def readDigits? (value : Nat) (afterDigit : Bool) : List Char → Option Nat
  | [] => if afterDigit then some value else none
  | c :: rest =>
    match digitValue? c with
    | some digit => readDigits? (10 * value + digit) true rest
    | none => if c = '_' && afterDigit then readDigits? value false rest else none

/-- Characters that may surround a number: blanks, but not the information separators. -/
def isMargin (c : Char) : Bool :=
  isBlank c && !(0x1c ≤ c.toNat && c.toNat ≤ 0x1f)

/-- The whole number that a text writes. -/
def integer? (text : String) : Option Int :=
  match stripWhile isMargin text.toList with
  | '-' :: rest => (readDigits? 0 false rest).map fun n => -(n : Int)
  | '+' :: rest => (readDigits? 0 false rest).map fun n => (n : Int)
  | rest => (readDigits? 0 false rest).map fun n => (n : Int)

end ChangeLens.Setting
