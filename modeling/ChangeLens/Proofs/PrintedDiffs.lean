import ChangeLens.Hunk
import Mathlib.Data.List.Basic

/-!
# `ChangeLens.Proofs.PrintedDiffs`: reading a printed diff

An `Edit` is a hunk before it is printed: where it starts in both versions, and its lines with their
signs. `patch` prints edits in the unified format, and `Edit.hunk` is what should be read again; it
counts the number of a line from the lines before it.

Headers are read back with their numbers and no printed line is taken for one, so the hunks and
their ranges are always right. But an added line that starts with `++` and a removed one that starts
with `--` look like the header of a file. They are skipped, and the lines after them get the numbers
of the hunk without them. `parse_patch` says so, and that nothing else goes wrong: parsing undoes
printing exactly if no line looks like that. `steps_misread` is an edit where one does.
-/

set_option autoImplicit false

namespace ChangeLens

namespace Text

/-! ### Lines -/

/-- A text without line ends and a line feed behind it are one line. -/
theorem linesFrom_append {text : List Char} (h : text.any isLineBreak = false)
    (line rest : List Char) :
    linesFrom line (text ++ '\n' :: rest) = (line.reverse ++ text) :: linesFrom [] rest := by
  induction text generalizing line with
  | nil => simp [linesFrom, isLineBreak]
  | cons c text ih =>
    rw [List.any_cons, Bool.or_eq_false_iff] at h
    obtain ⟨hc, htext⟩ := h
    -- The pair of both line ends is out of the question: the text has no carriage return.
    have hreturn : c ≠ '\r' := by
      rintro rfl
      exact absurd hc (by decide)
    rw [List.cons_append, linesFrom, if_neg (by simp [hc]), ih htext]
    · simp
    · rintro _ rfl
      exact absurd rfl hreturn

/-- Texts without line breaks are the lines of what they make when each is ended by a line feed. -/
theorem lines_flatMap {texts : List (List Char)}
    (h : ∀ text ∈ texts, text.any isLineBreak = false) :
    lines (texts.flatMap (· ++ ['\n'])) = texts := by
  induction texts with
  | nil => rfl
  | cons text texts ih =>
    rw [lines] at ih ⊢
    rw [List.flatMap_cons, List.append_assoc, List.singleton_append,
      linesFrom_append (h text List.mem_cons_self), List.reverse_nil, List.nil_append,
      ih fun other hother => h other (List.mem_cons_of_mem text hother)]

/-! ### Numbers -/

/-- The numbers of the ten digits. -/
theorem toNat_of_isDigit {c : Char} (h : c.isDigit = true) : 48 ≤ c.toNat ∧ c.toNat ≤ 57 := by
  simpa [Char.isDigit, UInt32.le_iff_toNat_le] using h

/-- What a digit counts for. -/
theorem digitValue?_of_isDigit {c : Char} (h : c.isDigit = true) :
    digitValue? c = some (c.toNat - '0'.toNat) := by
  obtain ⟨hlow, hhigh⟩ := toNat_of_isDigit h
  rw [digitValue?, zeros, List.find?_cons_of_pos (by simp [hlow, hhigh])]
  rfl

/-- A digit ends no line. -/
theorem isLineBreak_of_isDigit {c : Char} (h : c.isDigit = true) : isLineBreak c = false := by
  obtain ⟨hlow, hhigh⟩ := toNat_of_isDigit h
  simp only [isLineBreak, Bool.or_eq_false_iff, Bool.and_eq_false_iff, decide_eq_false_iff_not,
    beq_eq_false_iff_ne]
  omega

/-- The digits of a number write it. -/
theorem digitsValue_toDigits (n : Nat) : digitsValue (Nat.toDigits 10 n) = n := by
  have hvalues : digitsValue (Nat.toDigits 10 n) =
      (Nat.toDigits 10 n).foldl (fun sofar c => 10 * sofar + (c.toNat - '0'.toNat)) 0 := by
    refine List.foldl_ext _ _ 0 fun sofar c hc => ?_
    rw [digitValue?_of_isDigit (Nat.isDigit_of_mem_toDigits (by decide) (by decide) hc),
      Option.getD_some]
  rw [hvalues, ← Nat.ofDigitChars_eq_foldl, Nat.ofDigitChars_ten_toDigits]

end Text

namespace Hunk

open ChangeLens.Text

/-! ### Reading what is printed -/

/-- What follows a start that is there. -/
theorem afterStart?_append (start rest : List Char) :
    afterStart? start (start ++ rest) = some rest := by
  simp [afterStart?]

/-- The digits of a number are read up to the first character that is none. -/
theorem readNumber?_append (n : Nat) {c : Char} (hc : isDigit c = false) (rest : List Char) :
    readNumber? (Nat.toDigits 10 n ++ c :: rest) = some (n, c :: rest) := by
  have hdigits : (Nat.toDigits 10 n ++ c :: rest).takeWhile isDigit = Nat.toDigits 10 n := by
    rw [List.takeWhile_append_of_pos, List.takeWhile_cons_of_neg (by simp [hc]), List.append_nil]
    intro d hd
    rw [isDigit, digitValue?_of_isDigit (Nat.isDigit_of_mem_toDigits (by decide) (by decide) hd)]
    rfl
  have hsome : (Nat.toDigits 10 n).isEmpty = false := by
    rw [List.isEmpty_eq_false_iff]
    exact Nat.toDigits_ne_nil
  simp [readNumber?, hdigits, hsome, digitsValue_toDigits]

/-- The first line and the number of lines are read as they are printed. -/
theorem readExtent?_append (start count : Nat) {c : Char} (hc : isDigit c = false)
    (rest : List Char) :
    readExtent? (Nat.toDigits 10 start ++ ',' :: (Nat.toDigits 10 count ++ c :: rest)) =
      some (start, count, c :: rest) := by
  simp [readExtent?, readNumber?_append start (c := ',') (by decide),
    readNumber?_append count hc]

/-! ### Printing -/

/-- What becomes of a line. -/
inductive Sign where
  /-- Both versions have it. -/
  | context
  /-- Only the base version has it. -/
  | removed
  /-- Only the head version has it. -/
  | added
deriving Repr, DecidableEq

/-- The character that is printed before a line. -/
def Sign.mark : Sign → Char
  | .context => ' '
  | .removed => '-'
  | .added => '+'

/-- A line of one or both versions. -/
structure EditLine where
  /-- What becomes of it. -/
  sign : Sign
  /-- Its text. -/
  content : String
  /-- The text is one line. -/
  unbroken : content.toList.any isLineBreak = false

namespace EditLine

/-- The line behind its sign. -/
def printed (line : EditLine) : List Char :=
  line.sign.mark :: line.content.toList

/-- Whether the base version has the line. -/
def inBase (line : EditLine) : Bool :=
  line.sign != .added

/-- Whether the head version has the line. -/
def inHead (line : EditLine) : Bool :=
  line.sign != .removed

/-- Whether the line is printed like the header of a file. -/
def isHeaderLike (line : EditLine) : Bool :=
  "+++".toList.isPrefixOf line.printed || "---".toList.isPrefixOf line.printed

end EditLine

/-- Neighbouring lines of two versions, some of which differ. -/
structure Edit where
  /-- The number of the first line in the base version. -/
  baseStart : Nat
  /-- The number of the first line in the head version. -/
  headStart : Nat
  /-- The lines of both versions. -/
  lines : List EditLine
  baseStart_pos : 1 ≤ baseStart
  headStart_pos : 1 ≤ headStart
  /-- The edit adds or removes something. -/
  changed : ∃ line ∈ lines, line.sign ≠ .context

namespace Edit

/-- How many lines the base version has. -/
def baseCount (edit : Edit) : Nat :=
  edit.lines.countP EditLine.inBase

/-- How many lines the head version has. -/
def headCount (edit : Edit) : Nat :=
  edit.lines.countP EditLine.inHead

/-- The line that is printed before the lines of an edit. -/
def header (edit : Edit) : String :=
  s!"@@ -{edit.baseStart},{edit.baseCount} +{edit.headStart},{edit.headCount} @@"

/-- The header and the lines. -/
def printed (edit : Edit) : List (List Char) :=
  edit.header.toList :: edit.lines.map EditLine.printed

/-- The lines of one sign with their numbers in a version that starts at `start`. The number of a
line is that many further as the version has lines before it. -/
def numbered (start : Nat) (version : EditLine → Bool) (sign : Sign) (lines : List EditLine) :
    List DiffLine :=
  lines.zipIdx.filterMap fun (line, place) =>
    if line.sign = sign then some ⟨start + (lines.take place).countP version, line.content⟩
    else none

/-- `count` lines from `first` on, or the line `first` if there are none. -/
def extent (first count : Nat) : LineRange where
  start := first
  stop := first + max (count - 1 : Int) 0

/-- The hunk that an edit stands for. -/
def hunk (edit : Edit) (file : String) : Hunk where
  file := file
  base := extent edit.baseStart edit.baseCount
  head := extent edit.headStart edit.headCount
  added := numbered edit.headStart EditLine.inHead .added edit.lines
  removed := numbered edit.baseStart EditLine.inBase .removed edit.lines

/-- The hunk that an edit stands for when the lines that look like headers are skipped. -/
def skimmed (edit : Edit) (file : String) : Hunk :=
  let lines := edit.lines.filter (!·.isHeaderLike)
  { edit.hunk file with
    added := numbered edit.headStart EditLine.inHead .added lines
    removed := numbered edit.baseStart EditLine.inBase .removed lines }

end Edit

/-- Edits in the unified format, each line ended by a line feed. -/
def patch (edits : List Edit) : String :=
  String.ofList ((edits.flatMap Edit.printed).flatMap (· ++ ['\n']))

/-! ### Headers -/

/-- The characters of a header. -/
theorem Edit.header_toList (edit : Edit) :
    edit.header.toList = "@@ -".toList ++ (Nat.toDigits 10 edit.baseStart ++
      ',' :: (Nat.toDigits 10 edit.baseCount ++ ' ' :: '+' :: (Nat.toDigits 10 edit.headStart ++
        ',' :: (Nat.toDigits 10 edit.headCount ++ ' ' :: '@' :: '@' :: [])))) := by
  simp [header, toString, Nat.repr]

/-- A header is read with its numbers. -/
theorem Edit.ofLine?_header (edit : Edit) :
    Header.ofLine? edit.header.toList =
      some ⟨edit.baseStart, edit.baseCount, edit.headStart, edit.headCount⟩ := by
  have hplus (rest : List Char) : afterStart? " +".toList (' ' :: '+' :: rest) = some rest :=
    afterStart?_append " +".toList rest
  have hend : afterStart? " @@".toList [' ', '@', '@'] = some [] :=
    afterStart?_append " @@".toList []
  simp only [header_toList, Header.ofLine?, afterStart?_append, Option.bind_eq_bind,
    Option.bind_some, readExtent?_append _ _ (c := ' ') (by decide), hplus, hend]

/-- A header is one line. -/
theorem Edit.unbroken_header (edit : Edit) : edit.header.toList.any isLineBreak = false := by
  have hdigits (n : Nat) : (Nat.toDigits 10 n).any isLineBreak = false := by
    refine List.any_eq_false.2 fun c hc => ?_
    simp [isLineBreak_of_isDigit (Nat.isDigit_of_mem_toDigits (by decide) (by decide) hc)]
  have hstart : "@@ -".toList.any isLineBreak = false := rfl
  simp only [header_toList, List.any_append, List.any_cons, hdigits, hstart]
  rfl

/-- A printed line is no header. -/
theorem EditLine.ofLine?_printed (line : EditLine) : Header.ofLine? line.printed = none := by
  obtain ⟨sign, content, -⟩ := line
  cases sign <;> rfl

/-- A printed line is one line. -/
theorem EditLine.unbroken_printed (line : EditLine) : line.printed.any isLineBreak = false := by
  have hmark : isLineBreak line.sign.mark = false := by
    cases line.sign <;> rfl
  rw [printed, List.any_cons, hmark, line.unbroken, Bool.or_self]

/-- A patch has the lines that were printed. -/
theorem lines_patch (edits : List Edit) :
    Text.lines (patch edits).toList = edits.flatMap Edit.printed := by
  rw [patch, String.toList_ofList, lines_flatMap]
  intro text htext
  obtain ⟨edit, -, htext⟩ := List.mem_flatMap.1 htext
  rw [Edit.printed, List.mem_cons] at htext
  rcases htext with hheader | hline
  · rw [hheader]
    exact edit.unbroken_header
  · obtain ⟨line, -, rfl⟩ := List.mem_map.1 hline
    exact line.unbroken_printed

/-- Lines that are no header belong to the block before the next one. -/
theorem blocks_append {body : List (List Char)} (h : ∀ line ∈ body, Header.ofLine? line = none)
    (rest : List (List Char)) :
    blocks (body ++ rest) = (body ++ (blocks rest).1, (blocks rest).2) := by
  induction body with
  | nil => rfl
  | cons line body ih =>
    obtain ⟨hline, hbody⟩ := List.forall_mem_cons.1 h
    simp only [List.cons_append, blocks, hline, ih hbody]

/-- The lines of a printed diff are cut where the edits start. -/
theorem blocks_printed (edits : List Edit) :
    blocks (edits.flatMap Edit.printed) = ([], edits.map fun edit =>
      (⟨edit.baseStart, edit.baseCount, edit.headStart, edit.headCount⟩,
        edit.lines.map EditLine.printed)) := by
  induction edits with
  | nil => rfl
  | cons edit edits ih =>
    have hbody : ∀ line ∈ edit.lines.map EditLine.printed, Header.ofLine? line = none := by
      intro text htext
      obtain ⟨line, -, rfl⟩ := List.mem_map.1 htext
      exact line.ofLine?_printed
    simp only [List.flatMap_cons, Edit.printed, List.cons_append, blocks, edit.ofLine?_header,
      blocks_append hbody, ih, List.append_nil, List.map_cons]

/-- From the first line on, the range is given by its number of lines. -/
theorem Edit.extent_eq_ofCount {first : Nat} (h : 1 ≤ first) (count : Nat) :
    LineRange.ofCount first count = extent first count := by
  simp only [LineRange.ofCount, extent, LineRange.mk.injEq]
  omega

/-! ### Lines with their numbers -/

namespace Edit

variable {start : Nat} {version : EditLine → Bool} {sign : Sign} {lines : List EditLine}

/-- The first line has the number to start with, and counts for the next one if it is in the
version. -/
theorem numbered_cons (line : EditLine) :
    numbered start version sign (line :: lines) =
      (if line.sign = sign then [⟨start, line.content⟩] else []) ++
        numbered (if version line then start + 1 else start) version sign lines := by
  -- Each further line stands one place later, and counts `line` if the version has it.
  have hrest : (lines.zipIdx 1).filterMap (fun (other, place) =>
        if other.sign = sign then
          some (⟨start + ((line :: lines).take place).countP version, other.content⟩ : DiffLine)
        else none) =
      numbered (if version line then start + 1 else start) version sign lines := by
    rw [List.zipIdx_succ, List.filterMap_map, numbered]
    refine List.filterMap_congr fun (other, place) _ => ?_
    by_cases hversion : version line = true <;> grind
  rw [numbered, List.zipIdx_cons, List.filterMap_cons, hrest]
  by_cases hsign : line.sign = sign <;> simp [hsign]

/-- As many lines are numbered as have the sign. -/
theorem length_numbered :
    (numbered start version sign lines).length = lines.countP (·.sign = sign) := by
  induction lines generalizing start with
  | nil => rfl
  | cons line lines ih =>
    rw [numbered_cons, List.length_append, ih, List.countP_cons, Nat.add_comm]
    by_cases h : line.sign = sign <;> simp [h]

/-- Leaving out lines shows unless none of them has the sign. -/
theorem of_numbered_filter_eq {keep : EditLine → Bool}
    (h : numbered start version sign (lines.filter keep) = numbered start version sign lines) :
    ∀ line ∈ lines, line.sign = sign → keep line = true := by
  have hcount := congrArg List.length h
  rw [length_numbered, length_numbered, List.countP_eq_length_filter,
    List.countP_eq_length_filter] at hcount
  have hsame := (List.Sublist.filter (fun line => decide (line.sign = sign))
    (List.filter_sublist (p := keep) (l := lines))).eq_of_length hcount
  intro line hline hsign
  have hmem : line ∈ lines.filter (·.sign = sign) :=
    List.mem_filter.2 ⟨hline, decide_eq_true hsign⟩
  rw [← hsame] at hmem
  exact (List.mem_filter.1 (List.mem_filter.1 hmem).1).2

/-- A walk over printed lines that skips those like headers, collects the lines of one sign and
counts those of one version, numbers the lines that are left. -/
theorem walk_eq_numbered {walk : Nat → List (List Char) → List DiffLine}
    (hnil : ∀ number, walk number [] = [])
    (hcons : ∀ number line rest, walk number (EditLine.printed line :: rest) =
      if line.isHeaderLike then walk number rest
      else (if line.sign = sign then [⟨number, line.content⟩] else []) ++
        walk (if version line then number + 1 else number) rest)
    (start : Nat) (lines : List EditLine) :
    walk start (lines.map EditLine.printed) =
      numbered start version sign (lines.filter (!·.isHeaderLike)) := by
  induction lines generalizing start with
  | nil => exact hnil start
  | cons line lines ih =>
    rw [List.map_cons, hcons]
    by_cases hheader : line.isHeaderLike = true
    · rw [if_pos hheader, ih, List.filter_cons_of_neg (by simp [hheader])]
    · rw [if_neg hheader, ih, List.filter_cons_of_pos (by simp [hheader]), numbered_cons]

end Edit

/-- A printed line is read by its sign, unless it looks like the header of a file. -/
theorem ofLine_printed (line : EditLine) :
    BodyLine.ofLine line.printed =
      if line.isHeaderLike then .other
      else match line.sign with
        | .context => .context
        | .removed => .removed line.content.toList
        | .added => .added line.content.toList := by
  obtain ⟨sign, content, hunbroken⟩ := line
  cases sign with
  | context => rfl
  | removed => rfl
  | added =>
    have hheader : EditLine.isHeaderLike ⟨.added, content, hunbroken⟩ =
        "++".toList.isPrefixOf content.toList := Bool.or_false _
    rw [hheader]
    rfl

/-- Added lines are numbered by those of the head version that are read. -/
theorem addedLines_printed (start : Nat) (lines : List EditLine) :
    addedLines start (lines.map EditLine.printed) =
      Edit.numbered start EditLine.inHead .added (lines.filter (!·.isHeaderLike)) := by
  refine Edit.walk_eq_numbered (fun _ => rfl) (fun number line rest => ?_) start lines
  rw [addedLines, ofLine_printed]
  by_cases hheader : line.isHeaderLike = true
  · simp [hheader]
  · cases hsign : line.sign <;> simp [hheader, hsign, EditLine.inHead]

/-- Removed lines are numbered by those of the base version that are read. -/
theorem removedLines_printed (start : Nat) (lines : List EditLine) :
    removedLines start (lines.map EditLine.printed) =
      Edit.numbered start EditLine.inBase .removed (lines.filter (!·.isHeaderLike)) := by
  refine Edit.walk_eq_numbered (fun _ => rfl) (fun number line rest => ?_) start lines
  rw [removedLines, ofLine_printed]
  by_cases hheader : line.isHeaderLike = true
  · simp [hheader]
  · cases hsign : line.sign <;> simp [hheader, hsign, EditLine.inBase]

/-- A block is read as the hunk that leaves out what looks like a header. -/
theorem ofHeader_printed (edit : Edit) (file : String) :
    ofHeader file ⟨edit.baseStart, edit.baseCount, edit.headStart, edit.headCount⟩
      (edit.lines.map EditLine.printed) = edit.skimmed file := by
  rw [ofHeader, Edit.extent_eq_ofCount edit.baseStart_pos,
    Edit.extent_eq_ofCount edit.headStart_pos, addedLines_printed, removedLines_printed]
  rfl

/-- No context line looks like a header. -/
theorem EditLine.isHeaderLike_of_context {line : EditLine} (h : line.sign = .context) :
    line.isHeaderLike = false := by
  rw [isHeaderLike, printed, h]
  rfl

/-- Skipping shows as soon as there is a line to skip. -/
theorem Edit.skimmed_eq_hunk_iff (edit : Edit) (file : String) :
    edit.skimmed file = edit.hunk file ↔ ∀ line ∈ edit.lines, line.isHeaderLike = false := by
  constructor
  · intro h line hline
    -- A skipped line would be missing in one of the two lists, so each list is as long as it was.
    have hadded := of_numbered_filter_eq (congrArg Hunk.added h) line hline
    have hremoved := of_numbered_filter_eq (congrArg Hunk.removed h) line hline
    cases hsign : line.sign with
    | context => exact EditLine.isHeaderLike_of_context hsign
    | removed => simpa using hremoved hsign
    | added => simpa using hadded hsign
  · intro h
    have hlines : edit.lines.filter (!·.isHeaderLike) = edit.lines :=
      List.filter_eq_self.2 fun line hline => by simp [h line hline]
    rw [skimmed, hlines]
    rfl

/-- Of a printed diff one hunk is read for each edit, in order and with its ranges. Its lines are
those that do not look like headers, numbered as if there were no others. So parsing undoes printing
exactly if no line looks like a header. -/
theorem parse_patch (edits : List Edit) (file : String) :
    parse (patch edits) file = edits.map (·.skimmed file) ∧
      (parse (patch edits) file = edits.map (·.hunk file) ↔
        ∀ edit ∈ edits, ∀ line ∈ edit.lines, line.isHeaderLike = false) := by
  have hread : parse (patch edits) file = edits.map (·.skimmed file) := by
    rw [parse, lines_patch, blocks_printed, List.map_map]
    exact List.map_congr_left fun edit _ => ofHeader_printed edit file
  refine ⟨hread, ?_⟩
  rw [hread, List.map_inj_left]
  exact forall₂_congr fun edit _ => edit.skimmed_eq_hunk_iff file

/-- A decrement and a call become an increment and another call. -/
def steps : Edit where
  baseStart := 1
  headStart := 1
  lines :=
    [⟨.removed, "--i;", rfl⟩, ⟨.removed, "f();", rfl⟩, ⟨.added, "++i;", rfl⟩, ⟨.added, "g();", rfl⟩]
  baseStart_pos := by decide
  headStart_pos := by decide
  changed := ⟨_, List.mem_cons_self, by decide⟩

/-- The steps are lost, and the calls get their numbers. -/
theorem steps_misread :
    patch [steps] = "@@ -1,2 +1,2 @@\n---i;\n-f();\n+++i;\n+g();\n" ∧
      (steps.hunk "a.ts").removed = [⟨1, "--i;"⟩, ⟨2, "f();"⟩] ∧
      (steps.hunk "a.ts").added = [⟨1, "++i;"⟩, ⟨2, "g();"⟩] ∧
      parse (patch [steps]) "a.ts" =
        [{ steps.hunk "a.ts" with removed := [⟨1, "f();"⟩], added := [⟨1, "g();"⟩] }] ∧
      parse (patch [steps]) "a.ts" ≠ [steps.hunk "a.ts"] := by
  decide +kernel

end Hunk

end ChangeLens
