import ChangeLens.Text.Quoted
import ChangeLens.Text.Search

/-!
# `ChangeLens.Setting`: values of configuration files

Configuration files hold tables of values of any type. Tables keep the order of their entries,
because messages name the first entry that is wrong. `display` is the text of a value in messages,
`mergeTable` lays one table over another one.
-/

set_option autoImplicit false

namespace ChangeLens

/-- A value of a configuration file. -/
inductive Setting where
  /-- No value. -/
  | null
  /-- True or false. -/
  | switch (on : Bool)
  /-- A whole number. -/
  | number (value : Int)
  /-- A text. -/
  | text (value : String)
  /-- A list of values. -/
  | list (items : List Setting)
  /-- A table of named values, in order. -/
  | table (entries : List (String × Setting))
deriving Repr, BEq, Inhabited

/-- The entries of a table, in order. -/
abbrev Entries := List (String × Setting)

namespace Setting

/-! ### Text -/

mutual

/-- The text of a value inside a list or table: texts are quoted. -/
def render : Setting → String
  | null => "None"
  | switch on => if on then "True" else "False"
  | number value => toString value
  | text value => Text.quoted value
  | list items => "[" ++ Text.join ", " (renderItems items) ++ "]"
  | table entries => "\x7b" ++ Text.join ", " (renderEntries entries) ++ "\x7d"

/-- The texts of the items of a list. -/
def renderItems : List Setting → List String
  | [] => []
  | item :: rest => render item :: renderItems rest

/-- The texts of the entries of a table. -/
def renderEntries : List (String × Setting) → List String
  | [] => []
  | (key, value) :: rest => (Text.quoted key ++ ": " ++ render value) :: renderEntries rest

end

/-- The text of a value in a message: a text stands bare. -/
def display : Setting → String
  | text value => value
  | value => value.render

/-- The word for the type of a value in messages. -/
def typeName : Setting → String
  | null => "NoneType"
  | switch _ => "bool"
  | number _ => "int"
  | text _ => "str"
  | list _ => "list"
  | table _ => "dict"

/-- Whether a value counts as on: everything but nothing, false, zero and what is empty. -/
def isOn : Setting → Bool
  | null => false
  | switch on => on
  | number value => value != 0
  | text value => !value.isEmpty
  | list items => !items.isEmpty
  | table entries => !entries.isEmpty

/-- The text that a value is. -/
def text? : Setting → Option String
  | text value => some value
  | _ => none

/-! ### Tables -/

/-- The value under a key. -/
def lookup? (key : String) : Entries → Option Setting
  | [] => none
  | (name, value) :: rest => if name = key then some value else lookup? key rest

/-- Sets a key: in its place if the table has it, else at the end. -/
def put (key : String) (value : Setting) : Entries → Entries
  | [] => [(key, value)]
  | (name, old) :: rest =>
    if name = key then (key, value) :: rest else (name, old) :: put key value rest

/-- The table with these entries, in which the last entry for a key counts. -/
def ofPairs (pairs : Entries) : Entries :=
  pairs.foldl (fun entries (key, value) => put key value entries) []

/-- The entries of a value that is a table; none otherwise. -/
def entriesOf : Option Setting → Entries
  | some (table entries) => entries
  | _ => []

mutual

/-- Lays a table over another one: a table over a table is laid over it key by key, and any other
value replaces what was there. -/
def mergeTable (target : Entries) : List (String × Setting) → Entries
  | [] => target
  | (key, value) :: rest =>
    mergeTable (put key (mergeValue (lookup? key target) value) target) rest

/-- Lays a value over what was there. -/
def mergeValue (existing : Option Setting) : Setting → Setting
  | table entries => table (mergeTable (entriesOf existing) entries)
  | value => value

end

end Setting

end ChangeLens
