import ChangeLens.Proofs.TypeMembers
import ChangeLens.Report.Machine
import ChangeLens.Report.Workflow
import Mathlib.Data.List.Chain
import Mathlib.Data.List.Infix

/-!
# `ChangeLens.Proofs.LineFraming`: every line of a report stays one line

Reports for other programs are read line by line, and the texts in them are pieces of source code.
`Text.feedLines` cuts a text at its line feeds. It undoes the joining of lines that have none
(`feedLines_join`), so it is enough that escaped fields (`feed_notMem_escapeField`), numbers
(`mem_repr_int`) and names have none.

Remarks of a workflow show the path of the file as it is; their other texts are escaped. Replacing
pairs of colons from left to right leaves at most one colon of a run, at its end, and what stands in
the place of a line end starts with no colon. So no two colons come together again
(`escapeRemarkChars_apart`).
-/

set_option autoImplicit false

namespace ChangeLens

namespace Text

/-- What stands between the line feeds of a text. -/
def feedLines (text : String) : List String :=
  (text.toList.splitOn '\n').map String.ofList

/-- Texts without line feeds that are joined by them are the lines. -/
theorem feedLines_join {texts : List String} (hne : texts ≠ [])
    (h : ∀ text ∈ texts, '\n' ∉ text.toList) : feedLines (join "\n" texts) = texts := by
  have hcut : (['\n'].intercalate (texts.map String.toList)).splitOn '\n' =
      texts.map String.toList := by
    refine List.splitOn_intercalate '\n' (fun line hline => ?_) (by simpa using hne)
    obtain ⟨text, htext, rfl⟩ := List.mem_map.1 hline
    exact h text htext
  rw [feedLines, join, String.toList_intercalate]
  refine (congrArg (List.map String.ofList) hcut).trans ?_
  simp

/-- A decimal number is digits. -/
theorem isDigit_of_mem_toDigits {c : Char} {n : Nat} (h : c ∈ Nat.toDigits 10 n) :
    c.isDigit = true :=
  Nat.isDigit_of_mem_toDigits (by decide) (by decide) h

/-- An integer is digits and possibly a sign. -/
theorem mem_repr_int {c : Char} {n : Int} (h : c ∈ n.repr.toList) :
    c = '-' ∨ c.isDigit = true := by
  cases n with
  | ofNat m => exact .inr (isDigit_of_mem_toDigits (by simpa [Int.repr] using h))
  | negSucc m =>
    have hc : c = '-' ∨ c ∈ Nat.toDigits 10 (m + 1) := by simpa [Int.repr] using h
    exact hc.imp_right isDigit_of_mem_toDigits

end Text

namespace Report

open Text

/-! ### Lines of fields -/

/-- What stands before the first colon of a line. -/
def tagOf (line : String) : String :=
  .ofList (line.toList.takeWhile (· != ':'))

/-- A line of fields begins with its tag. -/
theorem tagOf_fieldLine {tag : String} (h : ':' ∉ tag.toList) (fields : List String) :
    tagOf (fieldLine tag fields) = tag := by
  -- The tag has no colon of its own, so the first colon ends it.
  have htag : ∀ c ∈ tag.toList, (c != ':') = true := fun c hc => by
    rw [bne_iff_ne]
    rintro rfl
    exact h hc
  obtain ⟨tail, hline, htail⟩ : ∃ tail, (fieldLine tag fields).toList = tag.toList ++ tail ∧
      tail.takeWhile (· != ':') = [] := by
    rw [fieldLine, join, String.toList_intercalate]
    cases fields with
    | nil => exact ⟨[], by simp, rfl⟩
    | cons first rest => exact ⟨':' :: [':'].intercalate ((first :: rest).map String.toList),
        by simp [List.intercalate_cons_cons], rfl⟩
  rw [tagOf, hline, List.takeWhile_append_of_pos htag, htail, List.append_nil, String.ofList_toList]

/-- An escaped field has no line feed, which is one of the characters that are escaped. -/
theorem feed_notMem_escapeField (text : String) : '\n' ∉ (escapeField text).toList := by
  rw [escapeField, String.toList_ofList, List.mem_flatMap]
  rintro ⟨c, -, hc⟩
  unfold fieldChar at hc
  split at hc
  case h_4 hfeed _ => exact hfeed (List.mem_singleton.1 hc).symm
  all_goals exact absurd hc (by decide)

/-- A line of fields without line feeds has none. -/
theorem feed_notMem_fieldLine {tag : String} {fields : List String} (htag : '\n' ∉ tag.toList)
    (hfields : ∀ field ∈ fields, '\n' ∉ field.toList) : '\n' ∉ (fieldLine tag fields).toList := by
  intro h
  rw [fieldLine, join, String.toList_intercalate] at h
  obtain hcolon | ⟨piece, hpiece, hc⟩ := TypeText.of_mem_join h
  · exact absurd hcolon (by decide)
  · obtain ⟨field, hfield, rfl⟩ := List.mem_map.1 hpiece
    rcases List.mem_cons.1 hfield with rfl | hfield
    · exact htag hc
    · exact hfields field hfield hc

/-- An integer has none. -/
theorem feed_notMem_int (n : Int) : '\n' ∉ n.repr.toList := fun h =>
  absurd (mem_repr_int h) (by decide)

/-- Nor has a natural number. -/
theorem feed_notMem_nat (n : Nat) : '\n' ∉ Nat.toDigits 10 n := fun h =>
  absurd (isDigit_of_mem_toDigits h) (by decide)

/-- Nor has the name of a severity. -/
theorem feed_notMem_severity (severity : Severity) : '\n' ∉ severity.name.toList := by
  cases severity <;> decide

/-- Nor has a field that may be missing. -/
theorem feed_notMem_optionalField (text : Option String) :
    '\n' ∉ (optionalField text).toList := by
  cases text with
  | none => exact List.not_mem_nil
  | some text => exact feed_notMem_escapeField text

/-- The summary is one line. -/
theorem feed_notMem_summaryLine (report : Report) : '\n' ∉ (summaryLine report).toList := by
  refine feed_notMem_fieldLine (by decide) ?_
  cases report.requiresTests <;> simp [feed_notMem_nat]

/-- Every change is one line. -/
theorem feed_notMem_changeLine (change : Record) : '\n' ∉ (changeLine change).toList := by
  refine feed_notMem_fieldLine (by decide) ?_
  simp [feed_notMem_escapeField, feed_notMem_int, feed_notMem_severity, feed_notMem_optionalField]

/-- Every failure is one line. -/
theorem feed_notMem_failureLine (failure : FailedFile) :
    '\n' ∉ (failureLine failure).toList := by
  refine feed_notMem_fieldLine (by decide) ?_
  simp [feed_notMem_escapeField]

/-- The time is one line. -/
theorem feed_notMem_timeLine (report : Report) : '\n' ∉ (timeLine report).toList := by
  refine feed_notMem_fieldLine (by decide) ?_
  simp [feed_notMem_nat]

/-- Every kind is one line. -/
theorem feed_notMem_kindLine (count : KindCount) : '\n' ∉ (kindLine count).toList := by
  refine feed_notMem_fieldLine (by decide) ?_
  simp [feed_notMem_escapeField, feed_notMem_nat, feed_notMem_severity]

/-- The lines of a report are read back as they were written. -/
theorem feedLines_renderMachine (report : Report) :
    feedLines (renderMachine report) = machineLines report := by
  refine feedLines_join (by simp [machineLines]) fun line hline => ?_
  rw [machineLines] at hline
  simp only [List.mem_append, List.mem_cons, List.mem_map, List.not_mem_nil, or_false] at hline
  rcases hline with (((rfl | ⟨change, -, rfl⟩) | ⟨failure, -, rfl⟩) | rfl) | ⟨count, -, rfl⟩
  · exact feed_notMem_summaryLine report
  · exact feed_notMem_changeLine change
  · exact feed_notMem_failureLine failure
  · exact feed_notMem_timeLine report
  · exact feed_notMem_kindLine count

/-! ### Remarks -/

/-- A remark that starts with a colon shows a text that does. -/
theorem head?_escapeRemarkChars {cs : List Char} (h : (escapeRemarkChars cs).head? = some ':') :
    cs.head? = some ':' := by
  unfold escapeRemarkChars at h
  split at h <;> simp_all

/-- No two colons stand next to each other in an escaped text. -/
theorem escapeRemarkChars_apart (cs : List Char) :
    (escapeRemarkChars cs).IsChain fun a b => a = ':' → b ≠ ':' := by
  fun_induction escapeRemarkChars cs with
  | case1 rest ih => simp [List.isChain_cons, ih]
  | case2 rest ih => simp [List.isChain_cons, ih]
  | case3 rest ih => simp [List.isChain_cons, ih]
  | case4 c rest hpair hreturn hfeed ih =>
    refine List.isChain_cons.2 ⟨fun d hd => ?_, ih⟩
    rintro rfl rfl
    obtain ⟨after, rfl⟩ := List.head?_eq_some_iff.1 (head?_escapeRemarkChars hd)
    exact hpair after rfl rfl
  | case5 => exact .nil

/-- An escaped remark has no line feed. -/
theorem feed_notMem_escapeRemarkChars (cs : List Char) : '\n' ∉ escapeRemarkChars cs := by
  fun_induction escapeRemarkChars cs with
  | case1 rest ih => simp [ih]
  | case2 rest ih => simp [ih]
  | case3 rest ih => simp [ih]
  | case4 c rest hpair hreturn hfeed ih =>
    refine fun h => (List.mem_cons.1 h).elim ?_ ih
    rintro rfl
    exact hfeed rfl
  | case5 => exact List.not_mem_nil

/-- An escaped text has no line feed and no pair of colons. -/
theorem escapeRemark_safe (text : String) :
    '\n' ∉ (escapeRemark text).toList ∧ ¬ "::".toList <:+: (escapeRemark text).toList := by
  rw [escapeRemark, String.toList_ofList]
  refine ⟨feed_notMem_escapeRemarkChars _, fun ⟨front, back, hpair⟩ => ?_⟩
  have hchain := escapeRemarkChars_apart text.toList
  rw [← hpair] at hchain
  exact absurd hchain.left_of_append.right_of_append (by simp)

/-- A remark breaks a line only where the path of its file does. -/
theorem feed_notMem_remark {change : Record} (h : '\n' ∉ change.file.toList) :
    '\n' ∉ (remark change).toList := by
  have hlevel : '\n' ∉ change.severity.remarkLevel.toList := by
    cases change.severity <;> decide
  have hline : '\n' ∉ (toString ",line=").toList := by decide
  rw [remark]
  simp [h, hlevel, hline, feed_notMem_int, escapeRemark_safe]

/-- The lines of the workflow form are the remarks, as long as no path has a line feed: paths are
not escaped. -/
theorem feedLines_renderWorkflow {report : Report} (hne : report.changes ≠ [])
    (h : ∀ change ∈ report.changes, '\n' ∉ change.file.toList) :
    feedLines (renderWorkflow report) = report.changes.map remark := by
  refine feedLines_join (by simpa using hne) fun line hline => ?_
  obtain ⟨change, hchange, rfl⟩ := List.mem_map.1 hline
  exact feed_notMem_remark (h change hchange)

/-! ### The framing of both forms -/

/-- Both forms keep one line for each thing they name. -/
theorem lines_framed :
    (∀ report : Report,
      feedLines (renderMachine report) =
        summaryLine report :: (report.changes.map changeLine ++ report.failed.map failureLine ++
          timeLine report :: (report.kindCounts.take 10).map kindLine) ∧
      (feedLines (renderMachine report)).map tagOf =
        "SUMMARY" :: (List.replicate report.changes.length "CHANGE" ++
          List.replicate report.failed.length "FAILED" ++
          "PERFORMANCE" :: List.replicate (min 10 report.kindCounts.length) "CHANGETYPE") ∧
      (feedLines (renderMachine report)).length =
        2 + report.changes.length + report.failed.length + min 10 report.kindCounts.length) ∧
    (∀ report : Report, report.changes ≠ [] →
      (∀ change ∈ report.changes, '\n' ∉ change.file.toList) →
      feedLines (renderWorkflow report) = report.changes.map remark ∧
      (feedLines (renderWorkflow report)).length = report.changes.length) ∧
    ∀ text : String,
      '\n' ∉ (escapeRemark text).toList ∧ ¬ "::".toList <:+: (escapeRemark text).toList := by
  refine ⟨fun report => ?_, fun report hne h => ?_, escapeRemark_safe⟩
  · -- One line for each change and each failed file, between the summary and the time, and at most
    -- ten kinds.
    have hlines : feedLines (renderMachine report) =
        summaryLine report :: (report.changes.map changeLine ++ report.failed.map failureLine ++
          timeLine report :: (report.kindCounts.take 10).map kindLine) := by
      rw [feedLines_renderMachine, machineLines, kindLineLimit]
      simp
    refine ⟨hlines, ?_, ?_⟩
    · -- No tag has a colon, so each is what stands before the first one.
      have hsummary : tagOf (summaryLine report) = "SUMMARY" := tagOf_fieldLine (by decide) _
      have hchange (change : Record) : tagOf (changeLine change) = "CHANGE" :=
        tagOf_fieldLine (by decide) _
      have hfailure (failure : FailedFile) : tagOf (failureLine failure) = "FAILED" :=
        tagOf_fieldLine (by decide) _
      have htime : tagOf (timeLine report) = "PERFORMANCE" := tagOf_fieldLine (by decide) _
      have hkind (count : KindCount) : tagOf (kindLine count) = "CHANGETYPE" :=
        tagOf_fieldLine (by decide) _
      rw [hlines]
      simp [Function.comp_def, hsummary, hchange, hfailure, htime, hkind]
    · rw [hlines]
      simp
      omega
  · rw [feedLines_renderWorkflow hne h]
    exact ⟨rfl, List.length_map _⟩

/-- A report with line ends and runs of colons in its texts. -/
def brokenTexts : Report :=
  build {}
    [⟨.functionCallAdded, .medium, "src/a.ts", ⟨1, 0, 3, 1⟩, "Call added: a:::b(\r\n)", "CallExpression",
      some "a:::b(\n)"⟩,
     ⟨.throwAdded, .medium, "src/a.ts", ⟨4, 2, 4, 9⟩, "Throw added:\n::\r", "ThrowStatement", none⟩]
    1 [⟨"src/b:c.ts", "first line\nsecond line"⟩] 12

/-- Two changes with line ends and commands in their texts are two remarks. -/
theorem lines_framed_brokenTexts :
    brokenTexts.changes ≠ [] ∧ (∀ change ∈ brokenTexts.changes, '\n' ∉ change.file.toList) ∧
      feedLines (renderWorkflow brokenTexts) = brokenTexts.changes.map remark ∧
      (feedLines (renderWorkflow brokenTexts)).length = 2 := by
  have hne : brokenTexts.changes ≠ [] := List.cons_ne_nil _ _
  have hfiles : ∀ change ∈ brokenTexts.changes, '\n' ∉ change.file.toList := by
    simp [brokenTexts, build]
  obtain ⟨hlines, hlength⟩ := lines_framed.2.1 brokenTexts hne hfiles
  exact ⟨hne, hfiles, hlines, hlength⟩

end Report

end ChangeLens
