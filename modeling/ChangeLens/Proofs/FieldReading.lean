import ChangeLens.Proofs.LineFraming

/-!
# `ChangeLens.Proofs.FieldReading`: reading the lines of a report

A program that reads a report cuts its lines at the colons that no backslash stands before and takes
the escapes back (`readEntries`). A backslash of the text itself is written as it is. So a text that
holds the two characters of an escape has the same field as one with the line end
(`exists_same_escapeField`) and is read as that one (`unescape_escapeChars`), and a backslash at the
end of a field hides the colon behind it (`cutFields_escapeChars`).

Nothing else goes wrong. `readEntries_iff` says that a report is read back exactly if no text of its
changes and failures holds such an escape and none but the last one of its line ends in a backslash.
`fields_conflated` has reports that differ and are written alike.
-/

set_option autoImplicit false

namespace ChangeLens

namespace Report

open Text

/-! ### Reading -/

/-- Cuts a line at the colons that no backslash stands before. -/
def cutFields : List Char → List (List Char)
  | [] => [[]]
  | '\\' :: ':' :: rest => (cutFields rest).modifyHead ('\\' :: ':' :: ·)
  | ':' :: rest => [] :: cutFields rest
  | c :: rest => (cutFields rest).modifyHead (c :: ·)

/-- Takes the escapes of a field back. -/
def unescape : List Char → List Char
  | '\\' :: ':' :: rest => ':' :: unescape rest
  | '\\' :: 'n' :: rest => '\n' :: unescape rest
  | '\\' :: 'r' :: rest => '\r' :: unescape rest
  | c :: rest => c :: unescape rest
  | [] => []

/-- The fields of a line. -/
def readFields (line : String) : List String :=
  (cutFields line.toList).map fun field => .ofList (unescape field)

/-- The texts of a change or of a failure. -/
inductive Entry where
  /-- The texts of a change. A context that is missing reads as an empty one. -/
  | change (file detail nodeLabel context : String)
  /-- The texts of a failure. -/
  | failure (file error : String)
deriving Repr, DecidableEq

/-- What the line of a change or of a failure says. -/
def entryOf? (line : String) : Option Entry :=
  match readFields line with
  | [tag, file, _, _, _, _, detail, nodeLabel, context] =>
    if tag = "CHANGE" then some (.change file detail nodeLabel context) else none
  | [tag, file, error] => if tag = "FAILED" then some (.failure file error) else none
  | _ => none

/-- What the lines of changes and of failures say. -/
def readEntries (text : String) : List Entry :=
  (feedLines text).filterMap entryOf?

/-- The texts of a change. -/
def changeEntry (change : Record) : Entry :=
  .change change.file change.detail change.nodeLabel (change.context.getD "")

/-- The texts of a failure. -/
def failureEntry (failure : FailedFile) : Entry :=
  .failure failure.path failure.error

/-- The texts that a report puts into lines. -/
def entries (report : Report) : List Entry :=
  report.changes.map changeEntry ++ report.failed.map failureEntry

/-! ### Texts that are read back -/

/-- A text holds the two characters that stand for a line end in a field. -/
def ShowsEscape (cs : List Char) : Prop :=
  ['\\', 'n'] <:+: cs ∨ ['\\', 'r'] <:+: cs

/-- A text ends in a backslash. -/
def EndsOpen (cs : List Char) : Prop :=
  cs.getLast? = some '\\'

/-- Some texts in one line can be read back. -/
structure LegibleTexts (texts : List String) : Prop where
  /-- No text holds an escape. -/
  plain : ∀ text ∈ texts, ¬ ShowsEscape text.toList
  /-- No text but the last one ends in a backslash. -/
  closed : ∀ text ∈ texts.dropLast, ¬ EndsOpen text.toList

/-- The texts of a change can be read back. -/
def LegibleChange (change : Record) : Prop :=
  LegibleTexts [change.file, change.detail, change.nodeLabel, change.context.getD ""]

/-- The texts of a failure can be read back. -/
def LegibleFailure (failure : FailedFile) : Prop :=
  LegibleTexts [failure.path, failure.error]

/-! ### Cutting -/

/-- The characters of a field. -/
def escapeChars (cs : List Char) : List Char :=
  cs.flatMap fieldChar

/-- Escaping a text is escaping its characters. -/
theorem escapeField_toList (text : String) :
    (escapeField text).toList = escapeChars text.toList :=
  String.toList_ofList

/-- Characters are escaped one by one. -/
theorem escapeChars_cons (c : Char) (cs : List Char) :
    escapeChars (c :: cs) = fieldChar c ++ escapeChars cs :=
  List.flatMap_cons

/-- No field starts with a colon. -/
theorem head?_fieldChar_append (c : Char) (tail : List Char) :
    (fieldChar c ++ tail).head? ≠ some ':' := by
  unfold fieldChar
  split <;> simp_all

/-- A character that is neither a colon nor a backslash before one stays in its field. -/
theorem cutFields_cons {c : Char} {tail : List Char} (hcolon : c ≠ ':')
    (h : c = '\\' → tail.head? ≠ some ':') :
    cutFields (c :: tail) = (cutFields tail).modifyHead (c :: ·) := by
  rw [cutFields]
  · rintro rest rfl rfl
    exact h rfl rfl
  · exact hcolon

/-- A character in a field is no place for a cut, unless it is a backslash before a colon. -/
theorem cutFields_fieldChar {c : Char} {tail : List Char}
    (h : c = '\\' → tail.head? ≠ some ':') :
    cutFields (fieldChar c ++ tail) = (cutFields tail).modifyHead (fieldChar c ++ ·) := by
  have hletter (letter : Char) (hcolon : letter ≠ ':') (hslash : letter ≠ '\\') :
      cutFields ('\\' :: letter :: tail) =
        (cutFields tail).modifyHead ('\\' :: letter :: ·) := by
    rw [cutFields_cons (by decide) fun _ => by simpa using hcolon,
      cutFields_cons hcolon fun heq => absurd heq hslash, List.modifyHead_modifyHead]
    rfl
  unfold fieldChar
  split
  · rfl
  · exact hletter 'n' (by decide) (by decide)
  · exact hletter 'r' (by decide) (by decide)
  case h_4 hcolon _ _ => exact cutFields_cons hcolon h

/-- A field goes into one piece, unless a backslash at its end hides the colon behind it. -/
theorem cutFields_escapeChars {cs tail : List Char} (h : EndsOpen cs → tail.head? ≠ some ':') :
    cutFields (escapeChars cs ++ tail) = (cutFields tail).modifyHead (escapeChars cs ++ ·) := by
  -- Inside the text a backslash stands before a field character, which is no colon; only the last
  -- character of the text can stand before the tail.
  induction cs with
  | nil =>
    rw [show (escapeChars [] ++ ·) = @id (List Char) from rfl, List.modifyHead_id]
    rfl
  | cons c cs ih =>
    have htail : EndsOpen cs → tail.head? ≠ some ':' := fun hopen => h (by
      cases cs with
      | nil => cases hopen
      | cons d cs => exact hopen)
    have hnext : c = '\\' → (escapeChars cs ++ tail).head? ≠ some ':' := by
      rintro rfl
      cases cs with
      | nil => exact h rfl
      | cons d cs =>
        rw [escapeChars_cons, List.append_assoc]
        exact head?_fieldChar_append d _
    rw [escapeChars_cons, List.append_assoc, cutFields_fieldChar hnext, ih htail,
      List.modifyHead_modifyHead]
    simp [Function.comp_def]

/-- The last field of a line. -/
theorem cutFields_last (cs : List Char) : cutFields (escapeChars cs) = [escapeChars cs] := by
  have h : cutFields (escapeChars cs ++ []) = (cutFields []).modifyHead (escapeChars cs ++ ·) :=
    cutFields_escapeChars fun _ => by simp
  simpa [cutFields] using h

/-- A field that is closed is cut off at the colon behind it. -/
theorem cutFields_closed {cs : List Char} (h : ¬ EndsOpen cs) (rest : List Char) :
    cutFields (escapeChars cs ++ ':' :: rest) = escapeChars cs :: cutFields rest := by
  rw [cutFields_escapeChars fun hopen => absurd hopen h]
  simp [cutFields]

/-- A field that is open runs on into the next one. -/
theorem length_cutFields_open {cs : List Char} (h : EndsOpen cs) (rest : List Char) :
    (cutFields (escapeChars cs ++ ':' :: rest)).length = (cutFields rest).length := by
  obtain ⟨front, rfl⟩ := List.getLast?_eq_some_iff.1 h
  have hlast : escapeChars (front ++ ['\\']) = escapeChars front ++ ['\\'] := by
    simp [escapeChars, fieldChar]
  rw [hlast, List.append_assoc, cutFields_escapeChars fun _ => by simp]
  simp [cutFields]

/-! ### Lines of escaped texts -/

/-- A line of escaped texts. -/
def escapedLine (texts : List String) : String :=
  join ":" (texts.map escapeField)

/-- A line of one text has no colon of its own. -/
theorem escapedLine_toList_single (text : String) :
    (escapedLine [text]).toList = escapeChars text.toList := by
  simp [escapedLine, join, escapeField_toList]

/-- A line of several texts has a colon between them. -/
theorem escapedLine_toList_cons (first second : String) (rest : List String) :
    (escapedLine (first :: second :: rest)).toList =
      escapeChars first.toList ++ ':' :: (escapedLine (second :: rest)).toList := by
  simp [escapedLine, join, escapeField_toList]

/-- Texts that are closed are cut apart again. -/
theorem cutFields_escapedLine {texts : List String} (hne : texts ≠ [])
    (h : ∀ text ∈ texts.dropLast, ¬ EndsOpen text.toList) :
    cutFields (escapedLine texts).toList = texts.map fun text => escapeChars text.toList := by
  induction texts with
  | nil => exact absurd rfl hne
  | cons first rest ih =>
    cases rest with
    | nil => rw [escapedLine_toList_single, cutFields_last, List.map_singleton]
    | cons second rest =>
      rw [List.dropLast_cons_cons, List.forall_mem_cons] at h
      rw [escapedLine_toList_cons, cutFields_closed h.1, ih (List.cons_ne_nil _ _) h.2]
      rfl

/-- There are never more fields than texts, and fewer if a text before the last one is open. -/
theorem length_cutFields_escapedLine {texts : List String} (hne : texts ≠ []) :
    (cutFields (escapedLine texts).toList).length ≤ texts.length ∧
      ((cutFields (escapedLine texts).toList).length = texts.length →
        ∀ text ∈ texts.dropLast, ¬ EndsOpen text.toList) := by
  induction texts with
  | nil => exact absurd rfl hne
  | cons first rest ih =>
    cases rest with
    | nil =>
      rw [escapedLine_toList_single, cutFields_last]
      exact ⟨Nat.le_refl _, fun _ _ h => absurd h List.not_mem_nil⟩
    | cons second rest =>
      obtain ⟨hle, hall⟩ := ih (List.cons_ne_nil _ _)
      rw [escapedLine_toList_cons, List.dropLast_cons_cons, List.length_cons]
      -- An open text loses the colon behind it and with it a field, which no later text brings back.
      by_cases hopen : EndsOpen first.toList
      · rw [length_cutFields_open hopen]
        exact ⟨Nat.le_succ_of_le hle, fun heq => by omega⟩
      · rw [cutFields_closed hopen, List.length_cons]
        exact ⟨Nat.succ_le_succ hle, fun heq =>
          List.forall_mem_cons.2 ⟨hopen, hall (Nat.succ_inj.1 heq)⟩⟩

/-! ### Taking escapes back -/

/-- What a text becomes when it is written and read: escapes that it holds are taken for line
ends. -/
def reread : List Char → List Char
  | '\\' :: 'n' :: rest => '\n' :: reread rest
  | '\\' :: 'r' :: rest => '\r' :: reread rest
  | c :: rest => c :: reread rest
  | [] => []

/-- A character that begins no escape stays as it is. -/
theorem unescape_cons {c : Char} {tail : List Char}
    (h : c = '\\' → tail.head? ≠ some ':' ∧ tail.head? ≠ some 'n' ∧ tail.head? ≠ some 'r') :
    unescape (c :: tail) = c :: unescape tail := by
  rw [unescape]
  · rintro rest rfl rfl
    exact (h rfl).1 rfl
  · rintro rest rfl rfl
    exact (h rfl).2.1 rfl
  · rintro rest rfl rfl
    exact (h rfl).2.2 rfl

/-- A field starts with a backslash or like its text, and never with a colon. -/
theorem head?_escapeChars {cs : List Char} {c : Char} (h : (escapeChars cs).head? = some c) :
    c = '\\' ∨ (c ≠ ':' ∧ cs.head? = some c) := by
  cases cs with
  | nil => cases h
  | cons d cs =>
    rw [escapeChars_cons] at h
    unfold fieldChar at h
    split at h
    case h_4 hcolon _ _ =>
      obtain rfl : d = c := Option.some.inj h
      exact .inr ⟨hcolon, rfl⟩
    all_goals exact .inl (Option.some.inj h).symm

/-- Taking escapes back gives the text in which line ends stand for what looked like their escapes.
-/
theorem unescape_escapeChars (cs : List Char) : unescape (escapeChars cs) = reread cs := by
  -- The cases are those of `reread`: an escaped line feed, an escaped return, any other character,
  -- and the end.
  fun_induction reread cs with
  | case1 rest ih => exact congrArg ('\n' :: ·) ih
  | case2 rest ih => exact congrArg ('\r' :: ·) ih
  | case3 c rest hfeed hreturn ih =>
    rw [escapeChars_cons]
    unfold fieldChar
    split
    · exact congrArg (':' :: ·) ih
    · exact congrArg ('\n' :: ·) ih
    · exact congrArg ('\r' :: ·) ih
    · rw [List.singleton_append, unescape_cons, ih]
      -- A backslash that no letter follows in the text is not made an escape by the next field.
      rintro rfl
      have hletter (letter : Char) (hslash : letter ≠ '\\')
          (hnext : letter ≠ ':' → rest.head? ≠ some letter) :
          (escapeChars rest).head? ≠ some letter := fun heq =>
        (head?_escapeChars heq).elim hslash fun h => hnext h.1 h.2
      refine ⟨hletter ':' (by decide) (absurd rfl), hletter 'n' (by decide) fun _ heq => ?_,
        hletter 'r' (by decide) fun _ heq => ?_⟩
      · obtain ⟨tail, rfl⟩ := List.head?_eq_some_iff.1 heq
        exact hfeed tail rfl rfl
      · obtain ⟨tail, rfl⟩ := List.head?_eq_some_iff.1 heq
        exact hreturn tail rfl rfl
  | case4 => rfl

/-- A text with an escape is not read back. -/
theorem reread_eq_self_iff {cs : List Char} : reread cs = cs ↔ ¬ ShowsEscape cs := by
  -- Where the text begins with an escape, it is changed and shows one; elsewhere it shows one
  -- exactly if the rest does.
  fun_induction reread cs with
  | case1 rest ih =>
    exact iff_of_false (by simp) (not_not.2 (.inl ⟨[], rest, rfl⟩))
  | case2 rest ih =>
    exact iff_of_false (by simp) (not_not.2 (.inr ⟨[], rest, rfl⟩))
  | case3 c rest hfeed hreturn ih =>
    have hshows : ShowsEscape (c :: rest) ↔ ShowsEscape rest := by
      simp only [ShowsEscape, List.infix_cons_iff]
      refine or_congr (or_iff_right ?_) (or_iff_right ?_)
      · rintro ⟨tail, heq⟩
        cases heq
        exact hfeed tail rfl rfl
      · rintro ⟨tail, heq⟩
        cases heq
        exact hreturn tail rfl rfl
    rw [hshows, ← ih]
    exact List.cons_inj_right c
  | case4 => simp [ShowsEscape]

/-- A text and its reread form are escaped alike, so no reader can tell them apart. -/
theorem escapeChars_reread (cs : List Char) : escapeChars (reread cs) = escapeChars cs := by
  fun_induction reread cs with
  | case1 rest ih => exact congrArg (['\\', 'n'] ++ ·) ih
  | case2 rest ih => exact congrArg (['\\', 'r'] ++ ·) ih
  | case3 c rest hfeed hreturn ih => rw [escapeChars_cons, escapeChars_cons, ih]
  | case4 => rfl

/-- Rereading leaves a text as it is exactly if it shows no escape. -/
theorem ofList_reread {text : String} :
    String.ofList (reread text.toList) = text ↔ ¬ ShowsEscape text.toList := by
  rw [← reread_eq_self_iff, ← String.toList_inj, String.toList_ofList]

/-- No reader can tell a text with an escape from the text that has a line end there. -/
theorem exists_same_escapeField {text : String} (h : ShowsEscape text.toList) :
    ∃ other, other ≠ text ∧ escapeField other = escapeField text := by
  refine ⟨.ofList (reread text.toList), fun heq => ofList_reread.1 heq h, ?_⟩
  rw [← String.toList_inj, escapeField_toList, escapeField_toList, String.toList_ofList,
    escapeChars_reread]

/-- If no text but the last one ends open, each is read back up to rereading. -/
theorem readFields_escapedLine {texts : List String} (hne : texts ≠ [])
    (h : ∀ text ∈ texts.dropLast, ¬ EndsOpen text.toList) :
    readFields (escapedLine texts) = texts.map fun text => .ofList (reread text.toList) := by
  rw [readFields, cutFields_escapedLine hne h, List.map_map]
  exact List.map_congr_left fun text _ => congrArg String.ofList (unescape_escapeChars _)

/-- If no field is missing then the texts are closed. -/
theorem closed_of_length_readFields {texts : List String} (hne : texts ≠ [])
    (h : (readFields (escapedLine texts)).length = texts.length) :
    ∀ text ∈ texts.dropLast, ¬ EndsOpen text.toList :=
  (length_cutFields_escapedLine hne).2 ((List.length_map _).symm.trans h)

/-- Legible texts are read back as they are. -/
theorem readFields_of_legibleTexts {texts : List String} (hne : texts ≠ [])
    (h : LegibleTexts texts) : readFields (escapedLine texts) = texts :=
  calc readFields (escapedLine texts)
    _ = texts.map fun text => .ofList (reread text.toList) := readFields_escapedLine hne h.closed
    _ = texts.map id := List.map_congr_left fun text htext => ofList_reread.2 (h.plain text htext)
    _ = texts := List.map_id texts

/-! ### Words of the report itself -/

/-- A text with nothing to escape and no backslash. -/
def IsWord (text : String) : Prop :=
  ∀ c ∈ text.toList, fieldChar c = [c] ∧ c ≠ '\\'

namespace IsWord

variable {text : String}

/-- A word needs no escape. -/
theorem escapeField_eq (h : IsWord text) : escapeField text = text := by
  rw [← String.toList_inj, escapeField_toList, escapeChars, List.flatMap_def,
    List.map_congr_left fun c hc => (h c hc).1, ← List.flatMap_def, List.flatMap_singleton']

/-- A word shows none. -/
theorem not_showsEscape (h : IsWord text) : ¬ ShowsEscape text.toList := by
  rintro (hpair | hpair) <;> exact (h '\\' (hpair.subset List.mem_cons_self)).2 rfl

/-- A word does not end in a backslash. -/
theorem not_endsOpen (h : IsWord text) : ¬ EndsOpen text.toList := fun hopen =>
  (h '\\' (List.mem_of_getLast? hopen)).2 rfl

end IsWord

/-- Letters, digits and hyphens make a word. -/
theorem isWord_of_isAlphanum {text : String}
    (h : ∀ c ∈ text.toList, c = '-' ∨ c.isAlphanum = true) : IsWord text := by
  intro c hc
  have hc := h c hc
  refine ⟨?_, fun heq => absurd (heq ▸ hc) (by decide)⟩
  unfold fieldChar
  split
  case h_4 => rfl
  all_goals exact absurd hc (by decide)

/-- Names need no look at their bytes. -/
theorem isWord_ofList {cs : List Char} (h : cs.all Char.isAlphanum = true) :
    IsWord (.ofList cs) :=
  isWord_of_isAlphanum fun c hc =>
    .inr (List.all_eq_true.1 h c (by rwa [String.toList_ofList] at hc))

/-- Integers are words. -/
theorem isWord_int (n : Int) : IsWord n.repr :=
  isWord_of_isAlphanum fun _ hc => (mem_repr_int hc).imp_right fun h => by simp [Char.isAlphanum, h]

/-- So are natural numbers. -/
theorem isWord_nat (n : Nat) : IsWord n.repr :=
  isWord_int n

/-- So are the names of severities. -/
theorem isWord_severity (severity : Severity) : IsWord severity.name := by
  cases severity <;> exact isWord_ofList rfl

/-- So are the names of kinds. -/
theorem isWord_kind (kind : ChangeKind) : IsWord kind.name := by
  cases kind <;> exact isWord_ofList rfl

/-- Words do not matter for reading. -/
theorem LegibleTexts.of_isWord {texts more : List String} (h : LegibleTexts texts)
    (hall : ∀ text ∈ more, IsWord text ∨ text ∈ texts)
    (hfront : ∀ text ∈ more.dropLast, IsWord text ∨ text ∈ texts.dropLast) :
    LegibleTexts more :=
  ⟨fun text htext => (hall text htext).elim IsWord.not_showsEscape (h.plain text),
    fun text htext => (hfront text htext).elim IsWord.not_endsOpen (h.closed text)⟩

/-- No texts at all are legible. -/
theorem legibleTexts_nil : LegibleTexts [] :=
  ⟨fun _ h => absurd h List.not_mem_nil, fun _ h => absurd h List.not_mem_nil⟩

/-- A line of words alone has a field for each of them. -/
theorem readFields_fieldLine {tag : String} {words : List String} (htag : IsWord tag)
    (h : ∀ word ∈ words, IsWord word) : readFields (fieldLine tag words) = tag :: words := by
  have hall := List.forall_mem_cons.2 ⟨htag, h⟩
  have hline : fieldLine tag words = escapedLine (tag :: words) :=
    congrArg (join ":") ((List.map_congr_left fun word hword =>
      (hall word hword).escapeField_eq).trans (List.map_id _)).symm
  rw [hline, readFields_of_legibleTexts (List.cons_ne_nil _ _)]
  exact legibleTexts_nil.of_isWord (fun word hword => .inl (hall word hword))
    fun word hword => .inl (hall word (List.mem_of_mem_dropLast hword))

/-! ### Changes and failures -/

/-- A line is read as a change exactly if it has the nine fields of one. -/
theorem entryOf?_eq_change_iff {line file detail nodeLabel context : String} :
    entryOf? line = some (.change file detail nodeLabel context) ↔
      ∃ row column severity kind, readFields line =
        ["CHANGE", file, row, column, severity, kind, detail, nodeLabel, context] := by
  unfold entryOf?
  split <;> simp_all

/-- A line is read as a failure exactly if it has the three fields of one. -/
theorem entryOf?_eq_failure_iff {line file error : String} :
    entryOf? line = some (.failure file error) ↔ readFields line = ["FAILED", file, error] := by
  unfold entryOf?
  split <;> simp_all

/-- The texts in the line of a change. -/
def changeTexts (change : Record) : List String :=
  ["CHANGE", change.file, toString change.span.startLine, toString change.span.startColumn,
    change.severity.name, change.kind.name, change.detail, change.nodeLabel,
    change.context.getD ""]

/-- The line of a change is a line of escaped texts, as the words among them need no escape. -/
theorem changeLine_eq (change : Record) : changeLine change = escapedLine (changeTexts change) := by
  have hcontext : optionalField change.context = escapeField (change.context.getD "") := by
    cases change.context <;> rfl
  simp only [changeLine, fieldLine, escapedLine, changeTexts, List.map_cons, List.map_nil,
    hcontext, Int.toString_eq_repr, (isWord_int _).escapeField_eq,
    (isWord_severity _).escapeField_eq]
  rfl

/-- The line of a failure is a line of escaped texts. -/
theorem failureLine_eq (failure : FailedFile) :
    failureLine failure = escapedLine ["FAILED", failure.path, failure.error] :=
  rfl

/-- A change is read back exactly if its texts are legible. -/
theorem entryOf?_changeLine_iff (change : Record) :
    entryOf? (changeLine change) = some (changeEntry change) ↔ LegibleChange change := by
  have hne : changeTexts change ≠ [] := List.cons_ne_nil _ _
  rw [changeEntry, entryOf?_eq_change_iff, changeLine_eq]
  constructor
  · rintro ⟨row, column, severity, kind, hfields⟩
    have hclosed := closed_of_length_readFields hne (by rw [hfields]; rfl)
    rw [readFields_escapedLine hne hclosed] at hfields
    simp only [changeTexts, List.map_cons, List.cons.injEq, ofList_reread] at hfields
    obtain ⟨-, hfile, -, -, -, -, hdetail, hlabel, hcontext, -⟩ := hfields
    refine ⟨by simp [hfile, hdetail, hlabel, hcontext], fun text htext => hclosed text ?_⟩
    revert text
    simp [changeTexts]
  · intro h
    have htag : IsWord "CHANGE" := isWord_ofList rfl
    refine ⟨_, _, _, _, readFields_of_legibleTexts hne (h.of_isWord ?_ ?_)⟩ <;>
      simp [changeTexts, htag, isWord_int, isWord_severity, isWord_kind]

/-- A failure is read back exactly if its texts are legible. -/
theorem entryOf?_failureLine_iff (failure : FailedFile) :
    entryOf? (failureLine failure) = some (failureEntry failure) ↔ LegibleFailure failure := by
  have hne : ["FAILED", failure.path, failure.error] ≠ [] := List.cons_ne_nil _ _
  have htag : IsWord "FAILED" := isWord_ofList rfl
  rw [failureEntry, entryOf?_eq_failure_iff, failureLine_eq]
  constructor
  · intro hfields
    have hclosed := closed_of_length_readFields hne (by rw [hfields])
    rw [readFields_escapedLine hne hclosed] at hfields
    simp only [List.map_cons, List.cons.injEq, ofList_reread] at hfields
    obtain ⟨-, hpath, herror, -⟩ := hfields
    refine ⟨by simp [hpath, herror], fun text htext => hclosed text ?_⟩
    revert text
    simp
  · intro h
    refine readFields_of_legibleTexts hne (h.of_isWord ?_ ?_) <;> simp [htag]

/-- The counts, the time and the kinds are no entries. -/
theorem entryOf?_words {tag : String} {words : List String} (htag : IsWord tag)
    (h : ∀ word ∈ words, IsWord word) (hchange : tag ≠ "CHANGE") (hfailure : tag ≠ "FAILED") :
    entryOf? (fieldLine tag words) = none := by
  rw [entryOf?, readFields_fieldLine htag h]
  split <;> simp_all

/-- A report is read back exactly if the texts of its records can be. -/
theorem readEntries_iff (report : Report) :
    readEntries (renderMachine report) = report.entries ↔
      (∀ change ∈ report.changes, LegibleChange change) ∧
        ∀ failure ∈ report.failed, LegibleFailure failure := by
  have hsummary : entryOf? (summaryLine report) = none := by
    refine entryOf?_words (isWord_ofList rfl) ?_ (by decide) (by decide)
    have htrue : IsWord "true" := isWord_ofList rfl
    have hfalse : IsWord "false" := isWord_ofList rfl
    cases report.requiresTests <;> simp [isWord_nat, htrue, hfalse]
  have htime : entryOf? (timeLine report) = none :=
    entryOf?_words (isWord_ofList rfl) (List.forall_mem_singleton.2 (isWord_nat _)) (by decide)
      (by decide)
  have hkinds : (report.kindCounts.take kindLineLimit).filterMap (entryOf? ∘ kindLine) = [] := by
    rw [List.filterMap_eq_nil_iff]
    intro count _
    rw [Function.comp_apply, kindLine, (isWord_kind _).escapeField_eq]
    refine entryOf?_words (isWord_ofList rfl) ?_ (by decide) (by decide)
    simp [isWord_kind, isWord_nat, isWord_severity]
  -- The lines stand next to what they should say, so that one law about `filterMap` covers changes
  -- and failures.
  let records : List (String × Entry) :=
    report.changes.map (fun change => (changeLine change, changeEntry change)) ++
      report.failed.map fun failure => (failureLine failure, failureEntry failure)
  calc readEntries (renderMachine report) = report.entries
    _ ↔ records.filterMap (entryOf? ·.1) = records.map (·.2) := by
      simp only [readEntries, feedLines_renderMachine, machineLines, entries, records,
        List.filterMap_append, List.filterMap_cons, List.filterMap_map, List.map_append,
        List.map_map, hsummary, htime, hkinds]
      simp [Function.comp_def]
    _ ↔ ∀ record ∈ records, entryOf? record.1 = some record.2 :=
      List.filterMap_eq_map_iff_forall_eq_some
    _ ↔ _ := by
      simp only [records, List.forall_mem_append, List.forall_mem_map,
        entryOf?_changeLine_iff, entryOf?_failureLine_iff]

/-- A report on one change with these texts. -/
def backslashTexts (detail nodeLabel : String) (context : Option String) : Report :=
  build {} [⟨.throwAdded, .medium, "src/a.ts", ⟨4, 2, 4, 9⟩, detail, nodeLabel, context⟩] 1 [] 12

/-- Two letters are taken for a line end, and a field that ends in a backslash for the start of a
longer one. -/
theorem fields_conflated :
    renderMachine (backslashTexts "a\\nb" "N" none) =
      renderMachine (backslashTexts "a\nb" "N" none) ∧
    (backslashTexts "a\\nb" "N" none).entries ≠ (backslashTexts "a\nb" "N" none).entries ∧
    renderMachine (backslashTexts "d\\" "N" (some "c:e")) =
      renderMachine (backslashTexts "d:N" "c\\" (some "e")) ∧
    (backslashTexts "d\\" "N" (some "c:e")).entries ≠
      (backslashTexts "d:N" "c\\" (some "e")).entries := by
  decide +kernel

end Report

end ChangeLens
