import ChangeLens.Text.Search

/-!
# `ChangeLens.Log`: names of loggers and the level of logging
-/

set_option autoImplicit false

namespace ChangeLens.Log

/-- The logger above all others. -/
def rootName : String :=
  "semdiff"

/-- The full name of a logger. All loggers stand below the root. -/
def fullName : Option String → String
  | none => rootName
  | some name =>
    if name = rootName || Text.startsWith (rootName ++ ".") name then name
    else rootName ++ "." ++ name

/-- How much is logged. -/
inductive Level where
  | debug
  | warning
  | error
deriving Repr, DecidableEq

/-- The name of a level. -/
def Level.name : Level → String
  | debug => "DEBUG"
  | warning => "WARNING"
  | error => "ERROR"

/-- The level for the switches of the command line; the quiet one wins. -/
def levelFor (verbose quiet : Bool) : Level :=
  if quiet then .error else if verbose then .debug else .warning

end ChangeLens.Log
