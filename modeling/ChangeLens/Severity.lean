import ChangeLens.Text.Search

/-!
# `ChangeLens.Severity`: how risky a change is

Three levels in ascending order. Their names are part of every output format.
-/

set_option autoImplicit false

namespace ChangeLens

/-- The risk attached to every change record. -/
inductive Severity where
  /-- Often cosmetic. -/
  | low
  /-- Usually worth a test. -/
  | medium
  /-- Always worth a test. -/
  | high
deriving Repr, DecidableEq

namespace Severity

/-- All levels in ascending order. -/
def all : List Severity :=
  [low, medium, high]

/-- The name of a level in every output format. -/
def name : Severity → String
  | low => "low"
  | medium => "medium"
  | high => "high"

/-- The place of a level in the order; a greater rank is a greater risk. -/
def rank : Severity → Nat
  | low => 1
  | medium => 2
  | high => 3

/-- The level with this name; capitals do not matter. -/
def ofName? (text : String) : Option Severity :=
  all.find? fun level => level.name == Text.toLowerAscii text

end Severity

end ChangeLens
