import ChangeLens.Setting.Integer
import ChangeLens.Text.Search

/-!
# `ChangeLens.CommandLine.Options`: reading the words of a command line

Long options start with two hyphens and take their value from behind an equals sign or from the next
word. Short options are single letters behind one hyphen; several switches can share a hyphen, and
what follows the letter of an option with a value is that value. Two hyphens alone end the options.
-/

set_option autoImplicit false

namespace ChangeLens.CommandLine

/-- The options of the analysis command. -/
inductive Opt where
  | baseRef
  | headRef
  | files
  | input
  | format
  | outputFile
  | timeoutMs
  | workers
  | repository
  | config
  | verbose
  | quiet
  | failOnTests
  | help
deriving Repr, DecidableEq

namespace Opt

/-- All options. -/
def all : List Opt :=
  [baseRef, headRef, files, input, format, outputFile, timeoutMs, workers, repository, config,
   verbose, quiet, failOnTests, help]

/-- The long name of an option. -/
def longName : Opt → String
  | baseRef => "--base-ref"
  | headRef => "--head-ref"
  | files => "--files"
  | input => "--stdin"
  | format => "--output-format"
  | outputFile => "--output-file"
  | timeoutMs => "--timeout-ms"
  | workers => "--workers"
  | repository => "--repo"
  | config => "--config"
  | verbose => "--verbose"
  | quiet => "--quiet"
  | failOnTests => "--fail-on-tests"
  | help => "--help"

/-- The letter of an option that has one. -/
def letter? : Opt → Option Char
  | format => some 'f'
  | outputFile => some 'o'
  | workers => some 'w'
  | repository => some 'C'
  | config => some 'c'
  | verbose => some 'v'
  | quiet => some 'q'
  | _ => none

/-- Whether an option has a value. -/
def takesValue : Opt → Bool
  | input | verbose | quiet | failOnTests | help => false
  | _ => true

/-- The option with a long name. -/
def ofLong? (name : String) : Option Opt :=
  all.find? fun option => option.longName == name

/-- The option with a letter. -/
def ofLetter? (letter : Char) : Option Opt :=
  all.find? fun option => option.letter? == some letter

end Opt

/-- An option as given, with its value. -/
abbrev Given := Opt × String

/-- The options in one word, and the option that takes the next word as its value. -/
structure Word where
  /-- The options that are complete. -/
  given : List Given
  /-- The option that waits for a value. -/
  pending : Option Opt := none

/-- Reads the letters of a word of short options. -/
def readLetters : List Char → Option Word
  | [] => some { given := [] }
  | letter :: rest => do
    let option ← Opt.ofLetter? letter
    if option.takesValue then
      if rest.isEmpty then some { given := [], pending := some option }
      else some { given := [(option, String.ofList rest)] }
    else
      let word ← readLetters rest
      some { word with given := (option, "") :: word.given }

/-- Reads a word with a long option. -/
def readLong (word : List Char) : Option Word := do
  let name := word.takeWhile (· != '=')
  let option ← Opt.ofLong? (String.ofList name)
  match option.takesValue, word.drop name.length with
  | true, _ :: value => some { given := [(option, String.ofList value)] }
  | true, [] => some { given := [], pending := some option }
  | false, _ :: _ => none
  | false, [] => some { given := [(option, "")] }

/-- Reads a word with options; `none` stands for a word without options. -/
def readWord : List Char → Option (Option Word)
  | '-' :: '-' :: rest => (readLong ('-' :: '-' :: rest)).map some
  | '-' :: letter :: rest => (readLetters (letter :: rest)).map some
  | _ => some none

/-- Reads the words behind a command: the options as given, and the words that are none. Fails on an
unknown option, on a value for a switch and on a missing value. -/
def readWords : List String → Option (List Given × List String)
  | [] => some ([], [])
  | word :: rest =>
    if word = "--" then some ([], rest)
    else
      match readWord word.toList with
      | none => none
      | some none => (readWords rest).map fun (given, others) => (given, word :: others)
      | some (some found) =>
        match found.pending, rest with
        | none, rest => (readWords rest).map fun (given, others) => (found.given ++ given, others)
        | some _, [] => none
        | some option, value :: rest =>
          (readWords rest).map fun (given, others) =>
            (found.given ++ (option, value) :: given, others)

/-- The value of an option; the last one counts. -/
def valueOf? (option : Opt) (given : List Given) : Option String :=
  ((given.filter fun (name, _) => name == option).getLast?).map (·.2)

/-- Whether an option is given. -/
def isGiven (option : Opt) (given : List Given) : Bool :=
  given.any fun (name, _) => name == option

/-- A whole number that is at least one, if one is given; fails on any other value. -/
def positive? (option : Opt) (given : List Given) : Option (Option Int) :=
  match valueOf? option given with
  | none => some none
  | some text => do
    let number ← Setting.integer? text
    if number < 1 then none else some (some number)

/-- What the analysis command is asked to do. -/
structure AnalyzeOptions where
  /-- The reference of the base versions. -/
  baseRef : String
  /-- The reference of the head versions. -/
  headRef : String
  /-- Files, with commas between them. -/
  files : Option String
  /-- Files are also read from the input. -/
  readInput : Bool
  /-- The name of the output format. -/
  format : String
  /-- The file that the report is written to. -/
  outputFile : Option String
  /-- The time limit for one file. -/
  timeoutMs : Option Int
  /-- The number of workers. -/
  workers : Option Int
  /-- The directory of the repository. -/
  repository : String
  /-- A configuration file. -/
  config : Option String
  /-- Everything is logged. -/
  verbose : Bool
  /-- Only errors are logged. -/
  quiet : Bool
  /-- The exit code says whether tests are required. -/
  failOnTests : Bool
deriving Repr, DecidableEq

/-- What a command line asks for. -/
inductive Request where
  /-- How the program is used. -/
  | help
  /-- The vocabulary of change kinds. -/
  | kinds
  /-- An analysis. -/
  | analyze (options : AnalyzeOptions)
deriving Repr, DecidableEq

/-- The options of an analysis; the base reference has to be given. -/
def AnalyzeOptions.ofGiven? (given : List Given) : Option AnalyzeOptions := do
  let baseRef ← valueOf? .baseRef given
  let timeoutMs ← positive? .timeoutMs given
  let workers ← positive? .workers given
  some
    { baseRef
      headRef := (valueOf? .headRef given).getD "."
      files := valueOf? .files given
      readInput := isGiven .input given
      format := (valueOf? .format given).getD "console"
      outputFile := valueOf? .outputFile given
      timeoutMs
      workers
      repository := (valueOf? .repository given).getD "."
      config := valueOf? .config given
      verbose := isGiven .verbose given
      quiet := isGiven .quiet given
      failOnTests := isGiven .failOnTests given }

/-- The request of the analysis command. -/
def analyzeRequest? (words : List String) : Option Request := do
  let (given, others) ← readWords words
  if isGiven .help given then some .help
  else
    let options ← AnalyzeOptions.ofGiven? given
    if others.isEmpty then some (.analyze options) else none

/-- The request of the vocabulary command, which has no options of its own. -/
def kindsRequest? (words : List String) : Option Request :=
  match words with
  | [] | ["--"] => some .kinds
  | words => if words.all (· == Opt.help.longName) then some .help else none

/-- The request of a command line; `none` when it is used wrongly. -/
def Request.ofWords? : List String → Option Request
  | "analyze" :: words => analyzeRequest? words
  | "kinds" :: words => kindsRequest? words
  | "--" :: "analyze" :: words => analyzeRequest? words
  | "--" :: "kinds" :: words => kindsRequest? words
  | "--help" :: _ => some .help
  | _ => none

end ChangeLens.CommandLine
