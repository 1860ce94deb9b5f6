import ChangeLens.Proofs.JsonReading
import ChangeLens.Proofs.LineFraming
import ChangeLens.Report.Json

/-!
# `ChangeLens.Proofs.JsonReports`: a report is read back from its JSON form

`Json.spelledBy_render` says that the written form of a value is one of those that the format allows:
the escapes name their characters, the items stand apart by commas and blanks. So it is read back.

A report is found again in its value by the names of the members (`Report.ofJson?`). The only member
that may be missing is the context of a record, and an empty context is not missing.
-/

set_option autoImplicit false

namespace ChangeLens

namespace Text

/-- A number below sixteen is one digit. -/
theorem hexDigits_one {n : Nat} (h : n < 16) : hexDigits 1 n = [n.digitChar] := by
  simp [hexDigits, Nat.toDigits_of_lt_base h]

/-- The last digit is the remainder, the digits before it are those of the quotient. -/
theorem hexDigits_succ {width : Nat} (hwidth : 0 < width) (n : Nat) :
    hexDigits (width + 1) n = hexDigits width (n / 16) ++ [(n % 16).digitChar] := by
  by_cases h : n < 16
  · obtain ⟨width, rfl⟩ := Nat.exists_eq_add_one.2 hwidth
    simp [hexDigits, Nat.toDigits_of_lt_base h, Nat.div_eq_of_lt h, Nat.mod_eq_of_lt h,
      List.replicate_succ']
  · simp [hexDigits, Nat.toDigits_of_base_le (by decide : 1 < 16) (Nat.le_of_not_lt h)]

/-- No number but zero is written with a zero in front. -/
theorem head?_toDigits_ne_zero {n : Nat} (h : n ≠ 0) :
    (Nat.toDigits 10 n).head? ≠ some '0' := by
  induction n using Nat.strongRecOn with
  | ind n ih =>
    by_cases hlt : n < 10
    · have hdigit : ∀ d < 10, d ≠ 0 → d.digitChar ≠ '0' := by decide
      rw [Nat.toDigits_of_lt_base hlt]
      exact fun heq => hdigit n hlt h (Option.some.inj heq)
    · obtain ⟨c, digits, hdigits⟩ := List.exists_cons_of_ne_nil
        (Nat.toDigits_ne_nil (n := n / 10) (b := 10))
      have hrest := ih (n / 10) (by omega) (by omega)
      rw [hdigits] at hrest
      rw [Nat.toDigits_of_base_le (by decide) (Nat.le_of_not_lt hlt), hdigits]
      exact hrest

end Text

namespace Json

/-! ### Texts -/

/-- A digit is read back as its value. -/
theorem hexValue?_digitChar {n : Nat} (h : n < 16) : hexValue? n.digitChar = some n := by
  revert n
  decide

/-- The escape of a unit names it. -/
theorem exists_unitEscape {unit : Nat} (h : unit < 0x10000) :
    ∃ a b c d, unitEscape unit = ['\\', 'u', a, b, c, d] ∧ unitValue? a b c d = some unit := by
  refine ⟨(unit / 16 / 16 / 16).digitChar, (unit / 16 / 16 % 16).digitChar,
    (unit / 16 % 16).digitChar, (unit % 16).digitChar, ?_, ?_⟩
  · rw [unitEscape, Text.hexDigits_succ (by decide), Text.hexDigits_succ (by decide),
      Text.hexDigits_succ (by decide), Text.hexDigits_one (by omega)]
    rfl
  · rw [unitValue?, hexValue?_digitChar (by omega), hexValue?_digitChar (by omega),
      hexValue?_digitChar (by omega), hexValue?_digitChar (by omega)]
    simp
    omega

/-- A letter behind a backslash means the character it was written for. -/
theorem letterMeaning?_of_shortEscape? {c letter : Char} (h : shortEscape? c = some letter) :
    letterMeaning? letter = some c := by
  unfold shortEscape? at h
  split at h <;> cases h <;> rfl

/-- What is written as it is may stand so in a text. -/
theorem isBare_of_isPlain {c : Char} (h : isPlain c = true) : isBare c = true := by
  simp only [isPlain, Bool.and_eq_true] at h
  simp [isBare, h]

/-- Every character is written in a form that is read as it. -/
theorem spellsChar_writeChar (c : Char) : SpellsChar (writeChar c) c := by
  -- No character has the number of a half, so a single unit is never taken for one.
  have hvalid : c.toNat < 0xd800 ∨ 0xdfff < c.toNat ∧ c.toNat < 0x110000 := c.valid
  unfold writeChar
  split
  · exact .bare (isBare_of_isPlain ‹_›)
  split
  · exact .letter (letterMeaning?_of_shortEscape? ‹_›)
  split
  -- One unit is enough.
  case isTrue hsmall =>
    obtain ⟨a, b, c', d, hescape, hunit⟩ := exists_unitEscape hsmall
    have h := SpellsChar.unit hunit (by simp [isHighUnit]; omega) (by simp [isLowUnit]; omega)
    rwa [← hescape, Char.ofNat_toNat] at h
  -- Two halves, of ten bits each.
  case isFalse hlarge =>
    have hhigh : 0xd800 + (c.toNat - 0x10000) / 0x400 < 0xdc00 := by omega
    have hlow : 0xdc00 + (c.toNat - 0x10000) % 0x400 < 0xe000 := by omega
    have hjoin : joinUnits (0xd800 + (c.toNat - 0x10000) / 0x400)
        (0xdc00 + (c.toNat - 0x10000) % 0x400) = c := by
      have hvalue : 0x10000 + (0xd800 + (c.toNat - 0x10000) / 0x400 - 0xd800) * 0x400 +
          (0xdc00 + (c.toNat - 0x10000) % 0x400 - 0xdc00) = c.toNat := by omega
      rw [joinUnits, hvalue, Char.ofNat_toNat]
    obtain ⟨a, b, c₁, d, hescape, hunit⟩ := exists_unitEscape (hhigh.trans (by decide))
    obtain ⟨a', b', c', d', hescape', hunit'⟩ := exists_unitEscape (hlow.trans (by decide))
    have h := SpellsChar.pair hunit (by simp [isHighUnit, hhigh]) hunit'
      (by simp [isLowUnit, hlow])
    rw [hescape, hescape']
    rwa [hjoin] at h

/-- Every text is written in a form that is read as it. -/
theorem spellsText_writeText (text : String) : SpellsText (writeText text) text := by
  have hchars (cs : List Char) : SpellsChars (cs.flatMap writeChar) cs := by
    induction cs with
    | nil => exact .nil
    | cons c cs ih => exact .cons (spellsChar_writeChar c) ih
  exact .quoted (hchars text.toList)

/-! ### Numbers -/

/-- The digits of a number spell it, without a zero in front. -/
theorem spellsNatural_toDigits (n : Nat) : SpellsNatural (Nat.toDigits 10 n) n where
  nonempty := Nat.toDigits_ne_nil
  all _ hc := Text.isDigit_of_mem_toDigits hc
  lead := by
    by_cases h : n = 0
    · rw [h]
      exact .inl rfl
    · exact .inr (Text.head?_toDigits_ne_zero h)
  value := Nat.ofDigitChars_ten_toDigits

/-- An integer is spelled by its digits, with a sign where it is negative. -/
theorem spellsNumber_toString (n : Int) : SpellsNumber (toString n).toList n := by
  cases n with
  | ofNat n =>
    have h := SpellsNumber.natural (spellsNatural_toDigits n)
    simpa [Int.repr] using h
  | negSucc n =>
    have h := SpellsNumber.negative (spellsNatural_toDigits (n + 1))
    rw [Int.natCast_succ, ← Int.negSucc_eq] at h
    simpa [Int.repr] using h

/-! ### Values -/

/-- Nothing is blank. -/
theorem blanks_nil : Blanks [] := fun _ h => absurd h List.not_mem_nil

/-- A space is blank. -/
theorem blanks_space : Blanks [' '] :=
  List.forall_mem_singleton.2 rfl

/-- So is the start of a line. -/
theorem blanks_lineStart (level : Nat) : Blanks (lineStart level) :=
  List.forall_mem_cons.2 ⟨rfl, fun _ hc => by rw [List.eq_of_mem_replicate hc]; rfl⟩

/-- A member is spelled by its key, a colon and its value. -/
theorem spells_writeMember {level : Nat} {key : String} {value : Json}
    (h : Spells (write level value) (.value value)) :
    Spells (writeText key ++ ([] ++ ':' :: ([' '] ++ write level value))) (.member (key, value)) :=
  .named (spellsText_writeText key) blanks_nil blanks_space h

-- The first item is written with its list and the others after it, so the laws about the rest of a
-- list take what is known of the item before it.
mutual

/-- The written form of a value is one that the format allows. -/
theorem spells_write (level : Nat) : (value : Json) → Spells (write level value) (.value value)
  | .switch true => .on
  | .switch false => .off
  | .number n => .number (spellsNumber_toString n)
  | .text value => .text (spellsText_writeText value)
  | .list [] => .emptyList blanks_nil
  | .list (item :: rest) => by
    have h := Spells.list (spells_writeItems level (spells_write (level + 1) item) rest)
    simpa [write] using h
  | .object [] => .emptyObject blanks_nil
  | .object ((key, value) :: rest) => by
    have h := Spells.object (spells_writeMembers level key (spells_write (level + 1) value) rest)
    simpa [write] using h

/-- The written items of a list up to its end. -/
theorem spells_writeItems (level : Nat) {item : Json}
    (h : Spells (write (level + 1) item) (.value item)) : (rest : List Json) →
    Spells (lineStart (level + 1) ++ (write (level + 1) item ++
      (writeItems (level + 1) rest ++ lineStart level))) (.items (item :: rest))
  | [] => .lastItem (blanks_lineStart _) h (blanks_lineStart _)
  | next :: rest => by
    have hrest := spells_writeItems level (spells_write (level + 1) next) rest
    simpa [writeItems] using Spells.item (blanks_lineStart (level + 1)) h blanks_nil hrest

/-- The written members of an object up to its end. -/
theorem spells_writeMembers (level : Nat) (key : String) {value : Json}
    (h : Spells (write (level + 1) value) (.value value)) : (rest : List (String × Json)) →
    Spells (lineStart (level + 1) ++ ((writeText key ++ ([] ++ ':' :: ([' '] ++
      write (level + 1) value))) ++ (writeMembers (level + 1) rest ++ lineStart level)))
      (.members ((key, value) :: rest))
  | [] => .lastMember (blanks_lineStart _) (spells_writeMember h) (blanks_lineStart _)
  | (key', next) :: rest => by
    have hrest := spells_writeMembers level key' (spells_write (level + 1) next) rest
    simpa [writeMembers] using
      Spells.member (blanks_lineStart (level + 1)) (spells_writeMember h) blanks_nil hrest

end

/-- What is rendered for a value spells it. -/
theorem spelledBy_render (value : Json) : SpelledBy value value.render :=
  ⟨[], write 0 value, [], blanks_nil, spells_write 0 value, blanks_nil, by simp [render]⟩

/-! ### Members -/

/-- The value of the only member with this name. -/
def member? (key : String) : Json → Option Json
  | object members =>
    match members.filter fun member => member.1 = key with
    | [(_, value)] => some value
    | _ => none
  | _ => none

/-- A text. -/
def text? : Json → Option String
  | text value => some value
  | _ => none

/-- A number. -/
def number? : Json → Option Int
  | number value => some value
  | _ => none

/-- A number that is not negative. -/
def natural? : Json → Option Nat
  | number (.ofNat n) => some n
  | _ => none

/-- A switch. -/
def switch? : Json → Option Bool
  | switch on => some on
  | _ => none

/-- A list of values that can all be read. -/
def listOf? {α : Type} (ofJson? : Json → Option α) : Json → Option (List α)
  | list items => items.mapM ofJson?
  | _ => none

/-- A list is read back if its elements are. -/
theorem listOf?_map {α : Type} {ofJson? : Json → Option α} {toJson : α → Json}
    (h : ∀ a, ofJson? (toJson a) = some a) (as : List α) :
    listOf? ofJson? (.list (as.map toJson)) = some as := by
  rw [listOf?]
  induction as with
  | nil => rfl
  | cons a as ih => simp [h, ih]

end Json

open Json

/-- The record that an object describes. -/
def Record.ofJson? (json : Json) : Option Record := do
  let kind ← ChangeKind.ofName? (← (← json.member? "kind").text?)
  let severity ← Severity.ofName? (← (← json.member? "severity").text?)
  let file ← (← json.member? "file").text?
  let startLine ← (← json.member? "line").number?
  let startColumn ← (← json.member? "column").number?
  let endLine ← (← json.member? "endLine").number?
  let endColumn ← (← json.member? "endColumn").number?
  let detail ← (← json.member? "detail").text?
  let nodeLabel ← (← json.member? "astNode").text?
  let context ← match json.member? "context" with
    | some value => value.text?.map some
    | none => some none
  return {
    kind, severity, file, span := { startLine, startColumn, endLine, endColumn }
    detail, nodeLabel, context }

/-- The count that an object describes. -/
def KindCount.ofJson? (json : Json) : Option KindCount := do
  let kind ← ChangeKind.ofName? (← (← json.member? "kind").text?)
  let count ← (← json.member? "count").natural?
  let worst ← Severity.ofName? (← (← json.member? "maxSeverity").text?)
  return { kind, count, worst }

/-- The failure that an object describes. -/
def FailedFile.ofJson? (json : Json) : Option FailedFile := do
  let path ← (← json.member? "filePath").text?
  let error ← (← json.member? "error").text?
  return { path, error }

/-- The counts by severity that an object describes. -/
def Breakdown.ofJson? (json : Json) : Option Breakdown := do
  let high ← (← json.member? "high").natural?
  let medium ← (← json.member? "medium").natural?
  let low ← (← json.member? "low").natural?
  return { high, medium, low }

namespace Report

/-- The report that an object describes. -/
def ofJson? (json : Json) : Option Report := do
  let requiresTests ← (← json.member? "requiresTests").switch?
  let summary ← (← json.member? "summary").text?
  let filesAnalyzed ← (← json.member? "filesAnalyzed").natural?
  let totalChanges ← (← json.member? "totalChanges").natural?
  let breakdown ← Breakdown.ofJson? (← json.member? "severityBreakdown")
  let kindCounts ← (← json.member? "topChangeTypes").listOf? KindCount.ofJson?
  let critical ← (← json.member? "criticalChanges").listOf? Record.ofJson?
  let changes ← (← json.member? "changes").listOf? Record.ofJson?
  let failed ← (← json.member? "failedFiles").listOf? FailedFile.ofJson?
  let touchesInterface ← (← json.member? "hasReactChanges").switch?
  let timeMs ← (← (← json.member? "performance").member? "analysisTimeMs").natural?
  return {
    requiresTests, summary, filesAnalyzed, totalChanges, breakdown, kindCounts
    critical, changes, failed, touchesInterface, timeMs }

end Report

/-- A kind is read back from its name. -/
theorem ChangeKind.ofName?_name (kind : ChangeKind) : ofName? kind.name = some kind := by
  cases kind <;> rfl

/-- So is a severity. -/
theorem Severity.ofName?_name (severity : Severity) : ofName? severity.name = some severity := by
  cases severity <;> rfl

/-- A record is read back from its value, an absent context as absent. -/
theorem Record.ofJson?_toJson (record : Record) : ofJson? record.toJson = some record := by
  obtain ⟨kind, severity, file, span, detail, nodeLabel, _ | context⟩ := record <;>
    simp [ofJson?, toJson, member?, text?, number?, ChangeKind.ofName?_name,
      Severity.ofName?_name]

/-- The count of a kind is read back. -/
theorem KindCount.ofJson?_toJson (count : KindCount) : ofJson? count.toJson = some count := by
  simp [ofJson?, toJson, member?, text?, natural?, ChangeKind.ofName?_name,
    Severity.ofName?_name]

/-- A failure is read back. -/
theorem FailedFile.ofJson?_toJson (failure : FailedFile) :
    ofJson? failure.toJson = some failure := by
  simp [ofJson?, toJson, member?, text?]

/-- The breakdown by severity is read back. -/
theorem Breakdown.ofJson?_toJson (breakdown : Breakdown) :
    ofJson? breakdown.toJson = some breakdown := by
  simp [ofJson?, toJson, member?, natural?]

namespace Report

/-- A report is read back from its value. -/
theorem ofJson?_toJson (report : Report) : ofJson? report.toJson = some report := by
  simp [ofJson?, toJson, member?, text?, natural?, switch?,
    listOf?_map KindCount.ofJson?_toJson, listOf?_map Record.ofJson?_toJson,
    listOf?_map FailedFile.ofJson?_toJson, Breakdown.ofJson?_toJson]

/-- The written form of a value is that of no other value, and a report is found again in its own. -/
theorem renderJson_lossless :
    (∀ value : Json, read? value.render = some value ∧
      ∀ other : Json, SpelledBy other value.render ↔ other = value) ∧
    ∀ report : Report,
      SpelledBy report.toJson report.renderJson ∧
      (read? report.renderJson).bind ofJson? = some report ∧
      ∀ other : Report, report.renderJson = other.renderJson ↔ report = other := by
  have hvalue (value : Json) : read? value.render = some value :=
    read?_of_spelledBy (spelledBy_render value)
  have hreport (report : Report) : (read? report.renderJson).bind ofJson? = some report := by
    rw [renderJson, hvalue, Option.bind_some, ofJson?_toJson]
  refine ⟨fun value => ⟨hvalue value, fun other => ⟨fun h => ?_, ?_⟩⟩,
    fun report => ⟨spelledBy_render report.toJson, hreport report, fun other => ⟨fun heq => ?_,
      congrArg renderJson⟩⟩⟩
  · exact eq_of_spelledBy h (spelledBy_render value)
  · rintro rfl
    exact spelledBy_render other
  · have h := hreport report
    rw [heq, hreport other] at h
    exact (Option.some.inj h).symm

end Report

end ChangeLens
