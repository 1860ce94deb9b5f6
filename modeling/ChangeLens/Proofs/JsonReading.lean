import ChangeLens.Json
import Mathlib.Data.List.DropRight

/-!
# `ChangeLens.Proofs.JsonReading`: the JSON format and a strict reader of it

`Json.Spells` says how the values of the format may be written, with any blanks between the tokens
and any of the escapes in texts. Two UTF-16 units of a character beyond the first plane belong
together, and half of such a pair is no character. Numbers are whole.

`Json.read?` reads every text that is written like that (`read?_of_spelledBy`), so no text is a
written form of two values. The reader counts its steps down, and every step takes a character:
the length of the text is enough (`reads_of_spells`).
-/

set_option autoImplicit false

namespace ChangeLens.Json

/-! ### How values may be written -/

/-- What may stand between tokens. -/
def isBlank (c : Char) : Bool :=
  c == ' ' || c == '\t' || c == '\n' || c == '\r'

/-- A run of blanks. -/
def Blanks (cs : List Char) : Prop :=
  ∀ c ∈ cs, isBlank c = true

/-- The value of a hexadecimal digit. -/
def hexValue? (c : Char) : Option Nat :=
  if '0' ≤ c ∧ c ≤ '9' then some (c.toNat - '0'.toNat)
  else if 'a' ≤ c ∧ c ≤ 'f' then some (c.toNat - 'a'.toNat + 10)
  else if 'A' ≤ c ∧ c ≤ 'F' then some (c.toNat - 'A'.toNat + 10)
  else none

/-- The UTF-16 unit that four digits name. -/
def unitValue? (a b c d : Char) : Option Nat := do
  let a ← hexValue? a
  let b ← hexValue? b
  let c ← hexValue? c
  let d ← hexValue? d
  return ((a * 16 + b) * 16 + c) * 16 + d

/-- Whether a unit is the first half of a character. -/
def isHighUnit (unit : Nat) : Bool :=
  0xd800 ≤ unit && unit < 0xdc00

/-- Whether a unit is the second half of a character. -/
def isLowUnit (unit : Nat) : Bool :=
  0xdc00 ≤ unit && unit < 0xe000

/-- The character with these two halves. -/
def joinUnits (high low : Nat) : Char :=
  .ofNat (0x10000 + (high - 0xd800) * 0x400 + (low - 0xdc00))

/-- What a letter behind a backslash stands for. -/
def letterMeaning? : Char → Option Char
  | '"' => some '"'
  | '\\' => some '\\'
  | '/' => some '/'
  | 'b' => some '\x08'
  | 'f' => some '\x0c'
  | 'n' => some '\n'
  | 'r' => some '\r'
  | 't' => some '\t'
  | _ => none

/-- Whether a character stands for itself in a text. -/
def isBare (c : Char) : Bool :=
  ' ' ≤ c && c != '"' && c != '\\'

/-- The ways to write a character of a text. -/
inductive SpellsChar : List Char → Char → Prop where
  /-- The character itself. -/
  | bare {c : Char} (h : isBare c = true) : SpellsChar [c] c
  /-- An escape of two characters. -/
  | letter {letter c : Char} (h : letterMeaning? letter = some c) : SpellsChar ['\\', letter] c
  /-- A character of one unit. -/
  | unit {a b c d : Char} {unit : Nat} (h : unitValue? a b c d = some unit)
      (hhigh : isHighUnit unit = false) (hlow : isLowUnit unit = false) :
      SpellsChar ['\\', 'u', a, b, c, d] (.ofNat unit)
  /-- A character of two units. -/
  | pair {a b c d a' b' c' d' : Char} {high low : Nat} (h : unitValue? a b c d = some high)
      (hhigh : isHighUnit high = true) (h' : unitValue? a' b' c' d' = some low)
      (hlow : isLowUnit low = true) :
      SpellsChar ['\\', 'u', a, b, c, d, '\\', 'u', a', b', c', d'] (joinUnits high low)

/-- The ways to write the characters of a text. -/
inductive SpellsChars : List Char → List Char → Prop where
  /-- No characters. -/
  | nil : SpellsChars [] []
  /-- A character and the rest. -/
  | cons {front rest cs : List Char} {c : Char} (h : SpellsChar front c)
      (hrest : SpellsChars rest cs) : SpellsChars (front ++ rest) (c :: cs)

/-- The ways to write a text. -/
inductive SpellsText : List Char → String → Prop where
  /-- Its characters between quotes. -/
  | quoted {inner : List Char} {text : String} (h : SpellsChars inner text.toList) :
      SpellsText ('"' :: (inner ++ ['"'])) text

/-- Some digits are the decimal form of a number. -/
structure SpellsNatural (digits : List Char) (n : Nat) : Prop where
  /-- There is a digit. -/
  nonempty : digits ≠ []
  /-- There is nothing else. -/
  all : ∀ c ∈ digits, c.isDigit = true
  /-- No zero stands in front. -/
  lead : digits = ['0'] ∨ digits.head? ≠ some '0'
  /-- They have the value of the number. -/
  value : Nat.ofDigitChars 10 digits 0 = n

/-- The ways to write a whole number. -/
inductive SpellsNumber : List Char → Int → Prop where
  /-- Without a sign. -/
  | natural {digits : List Char} {n : Nat} (h : SpellsNatural digits n) : SpellsNumber digits n
  /-- With a minus sign. -/
  | negative {digits : List Char} {n : Nat} (h : SpellsNatural digits n) :
      SpellsNumber ('-' :: digits) (-n)

/-- A value, or what stands between the brackets of one. -/
inductive Part where
  /-- A value. -/
  | value (value : Json)
  /-- A name with a value. -/
  | member (member : String × Json)
  /-- Some items. -/
  | items (items : List Json)
  /-- Some members. -/
  | members (members : List (String × Json))

/-- The ways to write a value or a part of one. -/
inductive Spells : List Char → Part → Prop where
  /-- True. -/
  | on : Spells ['t', 'r', 'u', 'e'] (.value (.switch true))
  /-- False. -/
  | off : Spells ['f', 'a', 'l', 's', 'e'] (.value (.switch false))
  /-- A number. -/
  | number {cs : List Char} {n : Int} (h : SpellsNumber cs n) : Spells cs (.value (.number n))
  /-- A text. -/
  | text {cs : List Char} {text : String} (h : SpellsText cs text) :
      Spells cs (.value (.text text))
  /-- A list without items. -/
  | emptyList {blanks : List Char} (h : Blanks blanks) :
      Spells ('[' :: (blanks ++ [']'])) (.value (.list []))
  /-- A list. -/
  | list {cs : List Char} {items : List Json} (h : Spells cs (.items items)) :
      Spells ('[' :: (cs ++ [']'])) (.value (.list items))
  /-- An object without members. -/
  | emptyObject {blanks : List Char} (h : Blanks blanks) :
      Spells ('\x7b' :: (blanks ++ ['\x7d'])) (.value (.object []))
  /-- An object. -/
  | object {cs : List Char} {members : List (String × Json)} (h : Spells cs (.members members)) :
      Spells ('\x7b' :: (cs ++ ['\x7d'])) (.value (.object members))
  /-- The last item of a list. -/
  | lastItem {before cs after : List Char} {item : Json} (hbefore : Blanks before)
      (h : Spells cs (.value item)) (hafter : Blanks after) :
      Spells (before ++ (cs ++ after)) (.items [item])
  /-- An item and the items behind it. -/
  | item {before cs after rest : List Char} {item : Json} {items : List Json}
      (hbefore : Blanks before) (h : Spells cs (.value item)) (hafter : Blanks after)
      (hrest : Spells rest (.items items)) :
      Spells (before ++ (cs ++ (after ++ ',' :: rest))) (.items (item :: items))
  /-- A name with a value. -/
  | named {cs before after name : List Char} {key : String} {value : Json}
      (hname : SpellsText name key) (hbefore : Blanks before) (hafter : Blanks after)
      (h : Spells cs (.value value)) :
      Spells (name ++ (before ++ ':' :: (after ++ cs))) (.member (key, value))
  /-- The last member of an object. -/
  | lastMember {before cs after : List Char} {member : String × Json} (hbefore : Blanks before)
      (h : Spells cs (.member member)) (hafter : Blanks after) :
      Spells (before ++ (cs ++ after)) (.members [member])
  /-- A member and the members behind it. -/
  | member {before cs after rest : List Char} {member : String × Json}
      {members : List (String × Json)} (hbefore : Blanks before)
      (h : Spells cs (.member member)) (hafter : Blanks after)
      (hrest : Spells rest (.members members)) :
      Spells (before ++ (cs ++ (after ++ ',' :: rest))) (.members (member :: members))

/-- A text is a written form of a value. -/
def SpelledBy (value : Json) (text : String) : Prop :=
  ∃ before cs after, Blanks before ∧ Spells cs (.value value) ∧ Blanks after ∧
    text.toList = before ++ (cs ++ after)

/-! ### The reader -/

/-- What follows some blanks. -/
def skipBlanks (cs : List Char) : List Char :=
  cs.dropWhile isBlank

/-- Reads a unit. -/
def readUnit? : List Char → Option (Nat × List Char)
  | '\\' :: 'u' :: a :: b :: c :: d :: rest => (unitValue? a b c d).map (·, rest)
  | _ => none

/-- Reads a character of a text. -/
def readChar? (cs : List Char) : Option (Char × List Char) :=
  match readUnit? cs with
  | some (unit, rest) =>
    if isHighUnit unit then
      match readUnit? rest with
      | some (low, rest) => if isLowUnit low then some (joinUnits unit low, rest) else none
      | none => none
    else if isLowUnit unit then none
    else some (.ofNat unit, rest)
  | none =>
    match cs with
    | '\\' :: letter :: rest => (letterMeaning? letter).map (·, rest)
    | c :: rest => if isBare c then some (c, rest) else none
    | [] => none

/-- Reads characters up to a quote. -/
def readChars? : Nat → List Char → Option (List Char × List Char)
  | 0, _ => none
  | _ + 1, '"' :: rest => some ([], rest)
  | fuel + 1, cs => do
    let (c, rest) ← readChar? cs
    let (more, rest) ← readChars? fuel rest
    return (c :: more, rest)

/-- Reads a text. -/
def readText? (fuel : Nat) : List Char → Option (String × List Char)
  | '"' :: rest => (readChars? fuel rest).map fun (cs, rest) => (.ofList cs, rest)
  | _ => none

/-- Reads a number without a sign. -/
def readNatural? (cs : List Char) : Option (Nat × List Char) :=
  match cs.takeWhile Char.isDigit with
  | [] => none
  | '0' :: _ :: _ => none
  | digits => some (Nat.ofDigitChars 10 digits 0, cs.dropWhile Char.isDigit)

/-- Reads a number. -/
def readNumber? : List Char → Option (Int × List Char)
  | '-' :: rest => (readNatural? rest).map fun (n, rest) => (-n, rest)
  | cs => (readNatural? cs).map fun (n, rest) => (n, rest)

/-- Reads elements with commas between them up to a bracket. -/
def readElements? {α : Type} (readElement? : List Char → Option (α × List Char))
    (close : Char) : Nat → List Char → Option (List α × List Char)
  | 0, _ => none
  | fuel + 1, cs => do
    let (first, rest) ← readElement? (skipBlanks cs)
    match skipBlanks rest with
    | ',' :: rest =>
      let (more, rest) ← readElements? readElement? close fuel rest
      return (first :: more, rest)
    | c :: rest => if c = close then return ([first], rest) else none
    | [] => none

/-- Reads elements, if there are any, up to a bracket. -/
def readBracketed? {α : Type} (readElement? : List Char → Option (α × List Char))
    (close : Char) (fuel : Nat) (cs : List Char) : Option (List α × List Char) :=
  match skipBlanks cs with
  | c :: rest =>
    if c = close then some ([], rest) else readElements? readElement? close fuel (c :: rest)
  | [] => none

/-- Reads a name with a value. -/
def readMember? (readValue? : List Char → Option (Json × List Char)) (fuel : Nat)
    (cs : List Char) : Option ((String × Json) × List Char) := do
  let (key, rest) ← readText? fuel cs
  match skipBlanks rest with
  | ':' :: rest =>
    let (value, rest) ← readValue? (skipBlanks rest)
    return ((key, value), rest)
  | _ => none

/-- Reads a value. -/
def readValue? : Nat → List Char → Option (Json × List Char)
  | 0, _ => none
  | _ + 1, 't' :: 'r' :: 'u' :: 'e' :: rest => some (.switch true, rest)
  | _ + 1, 'f' :: 'a' :: 'l' :: 's' :: 'e' :: rest => some (.switch false, rest)
  | fuel + 1, '"' :: rest =>
    (readText? fuel ('"' :: rest)).map fun (value, rest) => (.text value, rest)
  | fuel + 1, '[' :: rest =>
    (readBracketed? (readValue? fuel) ']' fuel rest).map fun (items, rest) => (.list items, rest)
  | fuel + 1, '\x7b' :: rest =>
    (readBracketed? (readMember? (readValue? fuel) fuel) '\x7d' fuel rest).map
      fun (members, rest) => (.object members, rest)
  | _ + 1, cs => (readNumber? cs).map fun (n, rest) => (.number n, rest)

/-- Reads a text that is a value. -/
def read? (text : String) : Option Json :=
  match readValue? text.toList.length (skipBlanks text.toList) with
  | some (value, rest) => if (skipBlanks rest).isEmpty then some value else none
  | none => none

/-! ### Texts are read -/

/-- No character of a text is written with a quote in front. -/
theorem SpellsChar.exists_cons {front : List Char} {c : Char} (h : SpellsChar front c) :
    ∃ d more, front = d :: more ∧ d ≠ '"' := by
  cases h with
  | bare h =>
    refine ⟨c, [], rfl, ?_⟩
    rintro rfl
    exact absurd h (by decide)
  | letter => exact ⟨_, _, rfl, by decide⟩
  | unit => exact ⟨_, _, rfl, by decide⟩
  | pair => exact ⟨_, _, rfl, by decide⟩

/-- A character is read however it is written, and no further. -/
theorem readChar?_of_spellsChar {front : List Char} {c : Char} (h : SpellsChar front c)
    (rest : List Char) : readChar? (front ++ rest) = some (c, rest) := by
  cases h with
  | bare h =>
    -- Neither of the escapes is tried on a character that stands for itself.
    have hslash : c ≠ '\\' := by
      rintro rfl
      exact absurd h (by decide)
    simp [readChar?, readUnit?, hslash, h]
  | @letter letter _ h =>
    -- The letter `u` begins the other kind of escape and has no meaning of its own.
    have hletter : letter ≠ 'u' := by
      rintro rfl
      cases h
    simp [readChar?, readUnit?, hletter, h]
  | unit h hhigh hlow => simp [readChar?, readUnit?, h, hhigh, hlow]
  | pair h hhigh h' hlow => simp [readChar?, readUnit?, h, hhigh, h', hlow]

/-- Characters are read up to the quote that closes them. -/
theorem readChars?_of_spellsChars {inner cs : List Char} (h : SpellsChars inner cs) {fuel : Nat}
    (hfuel : inner.length < fuel) (rest : List Char) :
    readChars? fuel (inner ++ '"' :: rest) = some (cs, rest) := by
  induction h generalizing fuel with
  | nil =>
    obtain ⟨fuel, rfl⟩ := Nat.exists_eq_add_of_lt hfuel
    rfl
  -- A character takes a step and at least one sign of the text, so the steps last.
  | @cons front back cs c h hrest ih =>
    obtain ⟨fuel, rfl⟩ := Nat.exists_eq_add_one.2 (Nat.zero_lt_of_lt hfuel)
    have hchar := readChar?_of_spellsChar h
    -- The reader looks for the closing quote first, so the character must not look like one.
    obtain ⟨d, more, rfl, hquote⟩ := h.exists_cons
    rw [List.cons_append, List.length_cons, List.length_append] at hfuel
    have hback : back.length < fuel := by omega
    rw [List.append_assoc, List.cons_append, readChars?, ← List.cons_append, hchar]
    · simp [ih hback]
    · rintro tail ⟨⟩
      exact hquote rfl

/-- A text is read with its quotes. -/
theorem readText?_of_spellsText {cs : List Char} {text : String} (h : SpellsText cs text)
    {fuel : Nat} (hfuel : cs.length ≤ fuel + 1) (rest : List Char) :
    readText? fuel (cs ++ rest) = some (text, rest) := by
  obtain @⟨inner, _, h⟩ := h
  rw [List.length_cons, List.length_append, List.length_singleton] at hfuel
  rw [List.cons_append, List.append_assoc, List.singleton_append, readText?,
    readChars?_of_spellsChars h (by omega)]
  simp

/-! ### Numbers are read -/

/-- A text does not go on with a digit. -/
def Stops (cs : List Char) : Prop :=
  ∀ c ∈ cs.head?, c.isDigit = false

/-- Digits are read up to the first character that is none. -/
theorem readNatural?_of_spellsNatural {digits : List Char} {n : Nat} (h : SpellsNatural digits n)
    {rest : List Char} (hrest : Stops rest) :
    readNatural? (digits ++ rest) = some (n, rest) := by
  have hnone : rest.takeWhile Char.isDigit = [] ∧ rest.dropWhile Char.isDigit = rest := by
    cases rest with
    | nil => exact ⟨rfl, rfl⟩
    | cons c rest => simp [hrest c rfl]
  rw [readNatural?, List.takeWhile_append_of_pos h.all, List.dropWhile_append_of_pos h.all,
    hnone.1, hnone.2, List.append_nil]
  split
  · exact absurd rfl h.nonempty
  · exact h.lead.elim (fun heq => by cases heq) (absurd rfl)
  · rw [h.value]

/-- A number is read with its sign. -/
theorem readNumber?_of_spellsNumber {cs : List Char} {n : Int} (h : SpellsNumber cs n)
    {rest : List Char} (hrest : Stops rest) : readNumber? (cs ++ rest) = some (n, rest) := by
  cases h with
  | natural h =>
    obtain ⟨c, digits, rfl⟩ := List.exists_cons_of_ne_nil h.nonempty
    -- A digit is not the sign of a negative number.
    have hminus : c ≠ '-' := by
      rintro rfl
      exact absurd (h.all '-' List.mem_cons_self) (by decide)
    rw [readNumber?, readNatural?_of_spellsNatural h hrest]
    · rfl
    · rintro tail ⟨⟩
      exact hminus rfl
  | negative h =>
    rw [List.cons_append, readNumber?, readNatural?_of_spellsNatural h hrest]
    rfl

/-! ### Blanks -/

section Blanks

variable {blanks rest : List Char}

/-- Blanks are skipped. -/
theorem skipBlanks_append (h : Blanks blanks) : skipBlanks (blanks ++ rest) = skipBlanks rest :=
  List.dropWhile_append_of_pos h

/-- All else is not. -/
theorem skipBlanks_cons {c : Char} (h : isBlank c = false) :
    skipBlanks (c :: rest) = c :: rest :=
  List.dropWhile_cons_of_neg (by simp [h])

/-- No blank is a digit. -/
theorem isDigit_of_isBlank {c : Char} (h : isBlank c = true) : c.isDigit = false := by
  simp only [isBlank, Bool.or_eq_true, beq_iff_eq] at h
  rcases h with ((rfl | rfl) | rfl) | rfl <;> decide

/-- A number ends before blanks. -/
theorem stops_of_blanks (h : Blanks blanks) : Stops blanks := fun c hc =>
  isDigit_of_isBlank (h c (List.mem_of_mem_head? hc))

/-- It ends before blanks and what follows them, if that is no digit either. -/
theorem stops_append {c : Char} (h : Blanks blanks) (hc : c.isDigit = false) :
    Stops (blanks ++ c :: rest) := by
  cases blanks with
  | nil =>
    rintro _ ⟨⟩
    exact hc
  | cons d blanks =>
    rintro _ ⟨⟩
    exact isDigit_of_isBlank (h d List.mem_cons_self)

end Blanks

/-! ### Elements are read -/

section Elements

variable {α : Type} {readElement? : List Char → Option (α × List Char)} {close : Char}
  {before cs after rest tail : List Char} {first : α} {more : List α} {fuel : Nat}

/-- The last element is read up to the closing bracket. -/
theorem readElements?_last (hclose : close = ']' ∨ close = '\x7d') (hbefore : Blanks before)
    (hfirst : ∃ c front, cs = c :: front ∧ isBlank c = false)
    (hread : ∀ tail, Stops tail → readElement? (cs ++ tail) = some (first, tail))
    (hafter : Blanks after) :
    readElements? readElement? close (fuel + 1) (before ++ (cs ++ after) ++ close :: tail) =
      some ([first], tail) := by
  obtain ⟨c, front, rfl, hc⟩ := hfirst
  have hskip : skipBlanks (before ++ (c :: front ++ after) ++ close :: tail) =
      c :: front ++ (after ++ close :: tail) := by
    rw [List.append_assoc, skipBlanks_append hbefore, List.append_assoc, List.cons_append,
      skipBlanks_cons hc]
  -- A value ends where blanks or the closing bracket follow.
  have hstop : Stops (after ++ close :: tail) :=
    stops_append hafter (by rcases hclose with rfl | rfl <;> decide)
  have hend : skipBlanks (after ++ close :: tail) = close :: tail := by
    rw [skipBlanks_append hafter, skipBlanks_cons (by rcases hclose with rfl | rfl <;> decide)]
  rw [readElements?, hskip, hread _ hstop]
  simp only [Option.bind_eq_bind, Option.bind_some, hend]
  rcases hclose with rfl | rfl <;> simp

/-- An element is read up to the comma, and then the others. -/
theorem readElements?_more (hbefore : Blanks before)
    (hfirst : ∃ c front, cs = c :: front ∧ isBlank c = false)
    (hread : ∀ tail, Stops tail → readElement? (cs ++ tail) = some (first, tail))
    (hafter : Blanks after)
    (hmore : readElements? readElement? close fuel (rest ++ close :: tail) = some (more, tail)) :
    readElements? readElement? close (fuel + 1)
      (before ++ (cs ++ (after ++ ',' :: rest)) ++ close :: tail) = some (first :: more, tail) := by
  obtain ⟨c, front, rfl, hc⟩ := hfirst
  have hskip : skipBlanks (before ++ (c :: front ++ (after ++ ',' :: rest)) ++ close :: tail) =
      c :: front ++ (after ++ ',' :: (rest ++ close :: tail)) := by
    rw [List.append_assoc, skipBlanks_append hbefore, List.append_assoc, List.cons_append,
      skipBlanks_cons hc, List.append_assoc]
    rfl
  have hstop : Stops (after ++ ',' :: (rest ++ close :: tail)) := stops_append hafter (by decide)
  -- Behind the value there are only blanks up to the comma, so the elements go on.
  have hcomma : skipBlanks (after ++ ',' :: (rest ++ close :: tail)) =
      ',' :: (rest ++ close :: tail) := by
    rw [skipBlanks_append hafter, skipBlanks_cons (by decide)]
  rw [readElements?, hskip, hread _ hstop]
  simp [hcomma, hmore]

/-- Blanks before the elements do not matter. -/
theorem readElements?_skipBlanks :
    readElements? readElement? close fuel (skipBlanks cs) =
      readElements? readElement? close fuel cs := by
  have hskip : skipBlanks (skipBlanks cs) = skipBlanks cs := List.dropWhile_idempotent _ _
  cases fuel with
  | zero => rfl
  | succ fuel => rw [readElements?, readElements?, hskip]

/-- Nothing but blanks between brackets is no element. -/
theorem readBracketed?_empty (hclose : close = ']' ∨ close = '\x7d') (h : Blanks before) :
    readBracketed? readElement? close fuel (before ++ close :: tail) = some ([], tail) := by
  have hskip : skipBlanks (before ++ close :: tail) = close :: tail := by
    rw [skipBlanks_append h, skipBlanks_cons (by rcases hclose with rfl | rfl <;> decide)]
  simp [readBracketed?, hskip]

/-- If something else stands there, elements are read. -/
theorem readBracketed?_elements (hfirst : ∃ c front, skipBlanks cs = c :: front ∧ c ≠ close)
    (h : readElements? readElement? close fuel cs = some (more, tail)) :
    readBracketed? readElement? close fuel cs = some (more, tail) := by
  obtain ⟨c, front, hskip, hc⟩ := hfirst
  rw [readBracketed?, hskip]
  simp only [hc, if_false]
  rw [← hskip, readElements?_skipBlanks, h]

end Elements

/-! ### Values are read -/

/-- With a step for each character the reader finds the part and stops behind it. What follows a
number must not go on with digits; lists and objects are read up to their closing bracket. -/
def Reads (cs : List Char) : Part → Prop
  | .value value => ∀ fuel tail, cs.length ≤ fuel → Stops tail →
      readValue? fuel (cs ++ tail) = some (value, tail)
  | .member member => ∀ fuel tail, cs.length ≤ fuel → Stops tail →
      readMember? (readValue? fuel) fuel (cs ++ tail) = some (member, tail)
  | .items items => ∀ fuel steps tail, cs.length ≤ fuel → cs.length < steps →
      readElements? (readValue? fuel) ']' steps (cs ++ ']' :: tail) = some (items, tail)
  | .members members => ∀ fuel steps tail, cs.length ≤ fuel → cs.length < steps →
      readElements? (readMember? (readValue? fuel) fuel) '\x7d' steps (cs ++ '\x7d' :: tail) =
        some (members, tail)

/-- A number starts with a minus sign or a digit. -/
theorem SpellsNumber.exists_cons {cs : List Char} {n : Int} (h : SpellsNumber cs n) :
    ∃ c front, cs = c :: front ∧ (c = '-' ∨ c.isDigit = true) := by
  cases h with
  | natural h =>
    obtain ⟨c, front, rfl⟩ := List.exists_cons_of_ne_nil h.nonempty
    exact ⟨c, front, rfl, .inr (h.all c List.mem_cons_self)⟩
  | negative => exact ⟨_, _, rfl, .inl rfl⟩

/-- No digit is a blank. -/
theorem isBlank_of_isDigit {c : Char} (h : c.isDigit = true) : isBlank c = false :=
  Bool.eq_false_iff.2 fun hblank => absurd h (by simp [isDigit_of_isBlank hblank])

/-- A value does not start with a blank or with the end of a list. -/
theorem Spells.exists_cons_value {cs : List Char} {value : Json} (h : Spells cs (.value value)) :
    ∃ c front, cs = c :: front ∧ isBlank c = false ∧ c ≠ ']' := by
  cases h with
  | number h =>
    obtain ⟨c, front, rfl, hc⟩ := h.exists_cons
    refine ⟨c, front, rfl, ?_, ?_⟩
    · rcases hc with rfl | hc
      · decide
      · exact isBlank_of_isDigit hc
    · rintro rfl
      exact absurd hc (by decide)
  | text h =>
    cases h
    exact ⟨_, _, rfl, by decide, by decide⟩
  | _ => exact ⟨_, _, rfl, by decide, by decide⟩

/-- A member starts with a quote. -/
theorem Spells.exists_cons_member {cs : List Char} {member : String × Json}
    (h : Spells cs (.member member)) : ∃ front, cs = '"' :: front := by
  cases h with
  | named hname =>
    cases hname
    exact ⟨_, rfl⟩

/-- What stands in a list does not start with its end. -/
theorem Spells.exists_cons_items {cs : List Char} {items : List Json}
    (h : Spells cs (.items items)) (tail : List Char) :
    ∃ c front, skipBlanks (cs ++ tail) = c :: front ∧ c ≠ ']' := by
  cases h with
  | lastItem hbefore h =>
    obtain ⟨c, front, rfl, hc, hclose⟩ := h.exists_cons_value
    rw [List.append_assoc, skipBlanks_append hbefore]
    exact ⟨c, _, skipBlanks_cons hc, hclose⟩
  | item hbefore h =>
    obtain ⟨c, front, rfl, hc, hclose⟩ := h.exists_cons_value
    rw [List.append_assoc, skipBlanks_append hbefore]
    exact ⟨c, _, skipBlanks_cons hc, hclose⟩

/-- What stands in an object does not start with its end. -/
theorem Spells.exists_cons_members {cs : List Char} {members : List (String × Json)}
    (h : Spells cs (.members members)) (tail : List Char) :
    ∃ c front, skipBlanks (cs ++ tail) = c :: front ∧ c ≠ '\x7d' := by
  cases h with
  | lastMember hbefore h =>
    obtain ⟨front, rfl⟩ := h.exists_cons_member
    rw [List.append_assoc, skipBlanks_append hbefore]
    exact ⟨'"', _, skipBlanks_cons (by decide), by decide⟩
  | member hbefore h =>
    obtain ⟨front, rfl⟩ := h.exists_cons_member
    rw [List.append_assoc, skipBlanks_append hbefore]
    exact ⟨'"', _, skipBlanks_cons (by decide), by decide⟩

/-- A step is left for every character. -/
theorem exists_fuel {c : Char} {cs : List Char} {fuel : Nat} (h : (c :: cs).length ≤ fuel) :
    ∃ less, fuel = less + 1 ∧ cs.length ≤ less := by
  obtain ⟨less, rfl⟩ := Nat.exists_eq_add_of_lt h
  exact ⟨cs.length + less, rfl, Nat.le_add_right _ _⟩

/-- A number is read as a value. -/
theorem reads_number {cs : List Char} {n : Int} (h : SpellsNumber cs n) :
    Reads cs (.value (.number n)) := by
  intro fuel tail hfuel hstop
  have hread := readNumber?_of_spellsNumber h hstop
  obtain ⟨c, front, rfl, hc⟩ := h.exists_cons
  obtain ⟨fuel, rfl, -⟩ := exists_fuel hfuel
  rw [readValue?, hread]
  · rfl
  all_goals
    intro _ heq
    obtain rfl := (List.cons.inj heq).1
    exact absurd hc (by decide)

/-- Whatever the blanks and the escapes, the reader takes exactly what was written. -/
theorem reads_of_spells {cs : List Char} {part : Part} (h : Spells cs part) : Reads cs part := by
  -- The induction is on how the text is written. A value takes a step for its first character, so
  -- enough steps are left for what stands between its brackets.
  induction h with
  | on =>
    intro fuel tail hfuel _
    obtain ⟨fuel, rfl, -⟩ := exists_fuel hfuel
    rfl
  | off =>
    intro fuel tail hfuel _
    obtain ⟨fuel, rfl, -⟩ := exists_fuel hfuel
    rfl
  | number h => exact reads_number h
  | text h =>
    intro fuel tail hfuel _
    have hread := @readText?_of_spellsText _ _ h
    obtain ⟨_⟩ := h
    obtain ⟨fuel, rfl, -⟩ := exists_fuel hfuel
    rw [List.cons_append, readValue?, ← List.cons_append, hread hfuel]
    rfl
  | emptyList h =>
    intro fuel tail hfuel _
    obtain ⟨fuel, rfl, -⟩ := exists_fuel hfuel
    rw [List.cons_append, List.append_assoc, List.singleton_append, readValue?,
      readBracketed?_empty (.inl rfl) h]
    rfl
  | @list cs items h ih =>
    intro fuel tail hfuel _
    obtain ⟨fuel, rfl, hless⟩ := exists_fuel hfuel
    rw [List.length_append, List.length_singleton] at hless
    rw [List.cons_append, List.append_assoc, List.singleton_append, readValue?,
      readBracketed?_elements (h.exists_cons_items _) (ih fuel fuel tail (by omega) hless)]
    rfl
  | emptyObject h =>
    intro fuel tail hfuel _
    obtain ⟨fuel, rfl, -⟩ := exists_fuel hfuel
    rw [List.cons_append, List.append_assoc, List.singleton_append, readValue?,
      readBracketed?_empty (.inr rfl) h]
    rfl
  | @object cs members h ih =>
    intro fuel tail hfuel _
    obtain ⟨fuel, rfl, hless⟩ := exists_fuel hfuel
    rw [List.length_append, List.length_singleton] at hless
    rw [List.cons_append, List.append_assoc, List.singleton_append, readValue?,
      readBracketed?_elements (h.exists_cons_members _) (ih fuel fuel tail (by omega) hless)]
    rfl
  -- Elements come before the bracket that closes them, with a step for each of them.
  | @lastItem before cs after item hbefore h hafter ih =>
    intro fuel steps tail hfuel hsteps
    obtain ⟨steps, rfl⟩ := Nat.exists_eq_add_one.2 (Nat.zero_lt_of_lt hsteps)
    obtain ⟨c, front, hcs, hc, -⟩ := h.exists_cons_value
    have hlength : cs.length ≤ fuel := by
      simp only [List.length_append] at hfuel
      omega
    exact readElements?_last (.inl rfl) hbefore ⟨c, front, hcs, hc⟩
      (fun tail hstop => ih fuel tail hlength hstop) hafter
  | @item before cs after rest item items hbefore h hafter hrest ih ihrest =>
    intro fuel steps tail hfuel hsteps
    obtain ⟨steps, rfl⟩ := Nat.exists_eq_add_one.2 (Nat.zero_lt_of_lt hsteps)
    obtain ⟨c, front, hcs, hc, -⟩ := h.exists_cons_value
    simp only [List.length_append, List.length_cons] at hfuel hsteps
    exact readElements?_more hbefore ⟨c, front, hcs, hc⟩
      (fun tail hstop => ih fuel tail (by omega) hstop) hafter
      (ihrest fuel steps tail (by omega) (by omega))
  -- A member has three parts, and blanks around its colon.
  | @named cs before after name key value hname hbefore hafter h ih =>
    intro fuel tail hfuel hstop
    obtain ⟨c, front, hcs, hc, -⟩ := h.exists_cons_value
    have hvalue : skipBlanks (after ++ (cs ++ tail)) = cs ++ tail := by
      rw [skipBlanks_append hafter, hcs]
      exact skipBlanks_cons hc
    have hcolon : skipBlanks (before ++ ':' :: (after ++ (cs ++ tail))) =
        ':' :: (after ++ (cs ++ tail)) := by
      rw [skipBlanks_append hbefore, skipBlanks_cons (by decide)]
    simp only [List.length_append, List.length_cons] at hfuel
    have hkey : readText? fuel (name ++ (before ++ ':' :: (after ++ (cs ++ tail)))) =
        some (key, before ++ ':' :: (after ++ (cs ++ tail))) :=
      readText?_of_spellsText hname (by omega) _
    simp [readMember?, hkey, hcolon, hvalue, ih fuel tail (by omega) hstop]
  | @lastMember before cs after member hbefore h hafter ih =>
    intro fuel steps tail hfuel hsteps
    obtain ⟨steps, rfl⟩ := Nat.exists_eq_add_one.2 (Nat.zero_lt_of_lt hsteps)
    obtain ⟨front, hcs⟩ := h.exists_cons_member
    simp only [List.length_append] at hfuel
    exact readElements?_last (.inr rfl) hbefore ⟨'"', front, hcs, by decide⟩
      (fun tail hstop => ih fuel tail (by omega) hstop) hafter
  | @member before cs after rest member members hbefore h hafter hrest ih ihrest =>
    intro fuel steps tail hfuel hsteps
    obtain ⟨steps, rfl⟩ := Nat.exists_eq_add_one.2 (Nat.zero_lt_of_lt hsteps)
    obtain ⟨front, hcs⟩ := h.exists_cons_member
    simp only [List.length_append, List.length_cons] at hfuel hsteps
    exact readElements?_more hbefore ⟨'"', front, hcs, by decide⟩
      (fun tail hstop => ih fuel tail (by omega) hstop) hafter
      (ihrest fuel steps tail (by omega) (by omega))

/-- The reader finds the value that a text spells. -/
theorem read?_of_spelledBy {value : Json} {text : String} (h : SpelledBy value text) :
    read? text = some value := by
  obtain ⟨before, cs, after, hbefore, hspells, hafter, htext⟩ := h
  obtain ⟨c, front, hcs, hc, -⟩ := hspells.exists_cons_value
  -- Nothing but blanks is left at the end.
  have hend : skipBlanks after = [] := by
    rw [← List.append_nil after, skipBlanks_append hafter]
    rfl
  have hskip : skipBlanks text.toList = cs ++ after := by
    rw [htext, skipBlanks_append hbefore, hcs]
    exact skipBlanks_cons hc
  have hread := reads_of_spells hspells text.toList.length after (by simp [htext]; omega)
    (stops_of_blanks hafter)
  rw [read?, hskip, hread]
  simp [hend]

/-- No text is a written form of two values. -/
theorem eq_of_spelledBy {value value' : Json} {text : String} (h : SpelledBy value text)
    (h' : SpelledBy value' text) : value = value' :=
  Option.some.inj ((read?_of_spelledBy h).symm.trans (read?_of_spelledBy h'))

end ChangeLens.Json
