import ChangeLens.Hunk
import ChangeLens.Source

/-!
# `ChangeLens.Proofs.WholeFile`: the hunk over the whole file drops nothing

Two notions of a line meet here. Records get their lines from the points of a syntax tree, and a
parser counts line feeds before an octet offset (`Source.Pointed`). The hunk over the whole file is as
long as the number of lines of the text, and `Text.lines` ends a line at many other characters, too,
but takes a carriage return and a line feed for one end and opens no line behind the last one.

`lineOf_le_length_lines` says that the two fit together: every character of a text stands on a line
that the text has, because each line feed ends one line at least and the character is on a further
one. An octet stands on the line of the character it belongs to (`exists_lineOf_eq_row`). So no
record that starts in its text lies behind the hunk, and `scope_forFile_of_no_header` says that all
of them are kept.
-/

set_option autoImplicit false

namespace ChangeLens

namespace Text

/-! ### Lines of characters -/

/-- The line of the character at an offset, counted by line feeds from one. -/
def lineOf (cs : List Char) (offset : Nat) : Nat :=
  (cs.take offset).count '\n' + 1

/-- A line that was begun is a line of the text. -/
theorem linesFrom_ne_nil {line : List Char} (h : line ≠ []) (cs : List Char) :
    linesFrom line cs ≠ [] := by
  fun_induction linesFrom line cs with
  | case1 line hempty => exact absurd (List.isEmpty_iff.1 hempty) h
  | case2 line hempty => simp
  | case3 line rest ih => simp
  | case4 line c rest hpair hbreak ih => simp
  | case5 line c rest hpair hbreak ih => exact ih (List.cons_ne_nil c line)

/-- Before every character of a text there are fewer line feeds than the text has lines. -/
theorem count_take_lt_length_linesFrom (line cs : List Char) {offset : Nat}
    (h : offset < cs.length) : (cs.take offset).count '\n' < (linesFrom line cs).length := by
  fun_induction linesFrom line cs generalizing offset with
  | case1 line hempty => simp at h
  | case2 line hempty => simp at h
  | case3 line rest ih =>
    -- The pair of both line ends has one line feed and ends one line.
    match offset, h with
    | 0, _ => simp
    | 1, _ => simp
    | offset + 2, h =>
      have hrest : (rest.take offset).count '\n' < (linesFrom [] rest).length :=
        ih (by simpa using h)
      simp only [List.take_succ_cons, List.count_cons, List.length_cons]
      simp only [Char.reduceBEq, Bool.false_eq_true, if_false, beq_self_eq_true, if_true]
      omega
  | case4 line c rest hpair hbreak ih =>
    -- Any other line end has one line feed at most.
    cases offset with
    | zero => simp
    | succ offset =>
      have hrest : (rest.take offset).count '\n' < (linesFrom [] rest).length :=
        ih (by simpa using h)
      have hone : (if (c == '\n') = true then 1 else 0) ≤ 1 := by split <;> omega
      rw [List.take_succ_cons, List.count_cons, List.length_cons]
      omega
  | case5 line c rest hpair hbreak ih =>
    -- The character goes on with the line, which has no line feed yet.
    have hc : (c == '\n') = false := by
      rw [beq_eq_false_iff_ne]
      rintro rfl
      exact hbreak rfl
    cases offset with
    | zero =>
      have hline := List.length_pos_iff.2 (linesFrom_ne_nil (List.cons_ne_nil c line) rest)
      simpa using hline
    | succ offset =>
      rw [List.take_succ_cons, List.count_cons, hc]
      exact ih (by simpa using h)

/-- Every character of a text stands on a line that the text has. -/
theorem lineOf_le_length_lines {cs : List Char} {offset : Nat} (h : offset < cs.length) :
    lineOf cs offset ≤ (lines cs).length :=
  count_take_lt_length_linesFrom [] cs h

/-! ### Lines of octets -/

/-- The octets of a character are no line feeds unless it is one. -/
theorem lineFeed_not_mem_encodeChar {c : Char} (h : c ≠ '\n') :
    (10 : UInt8) ∉ String.utf8EncodeChar c := by
  -- An octet is known by its value, and only a small character has an octet as small as this.
  have hoctet (n : Nat) (hn : n % 256 ≠ 10) : (10 : UInt8) ≠ UInt8.ofNat n := by
    intro heq
    have hvalue := congrArg UInt8.toNat heq
    rw [UInt8.toNat_ofNat'] at hvalue
    exact hn hvalue.symm
  have hvalue : c.val.toNat ≠ 10 := fun heq => h (Char.ext (UInt32.toNat_inj.1 heq))
  simp only [String.utf8EncodeChar]
  split
  · simp only [List.mem_singleton]
    exact hoctet _ (by omega)
  · split
    · simp only [List.mem_cons, List.not_mem_nil, or_false, not_or]
      exact ⟨hoctet _ (by omega), hoctet _ (by omega)⟩
    · split
      · simp only [List.mem_cons, List.not_mem_nil, or_false, not_or]
        exact ⟨hoctet _ (by omega), hoctet _ (by omega), hoctet _ (by omega)⟩
      · simp only [List.mem_cons, List.not_mem_nil, or_false, not_or]
        exact ⟨hoctet _ (by omega), hoctet _ (by omega), hoctet _ (by omega), hoctet _ (by omega)⟩

/-- Only the line feed has an octet 10: the octets of longer characters are at least 128. -/
theorem count_encodeChar (c : Char) :
    (String.utf8EncodeChar c).count 10 = if (c == '\n') = true then 1 else 0 := by
  split
  · rename_i hc
    rw [eq_of_beq hc]
    decide
  · rename_i hc
    rw [List.count_eq_zero]
    exact lineFeed_not_mem_encodeChar (by simpa using hc)

/-- No octet of a character comes behind a line feed of the same character. -/
theorem count_take_encodeChar {c : Char} {offset : Nat}
    (h : offset < (String.utf8EncodeChar c).length) :
    ((String.utf8EncodeChar c).take offset).count 10 = 0 := by
  by_cases hc : c = '\n'
  · subst hc
    have hfirst : offset = 0 := by
      have hlength : (String.utf8EncodeChar '\n').length = 1 := by decide
      omega
    rw [hfirst]
    rfl
  · rw [List.count_eq_zero]
    intro hmem
    exact lineFeed_not_mem_encodeChar hc (List.mem_of_mem_take hmem)

/-- Before an octet there are as many line feeds as before the character it belongs to. -/
theorem exists_count_take_eq (cs : List Char) {offset : Nat}
    (h : offset < (Utf8.encode cs).length) :
    ∃ place < cs.length,
      ((Utf8.encode cs).take offset).count 10 = (cs.take place).count '\n' := by
  induction cs generalizing offset with
  | nil => simp [Utf8.encode] at h
  | cons c rest ih =>
    have hencode : Utf8.encode (c :: rest) = String.utf8EncodeChar c ++ Utf8.encode rest :=
      List.flatMap_cons
    rw [hencode] at h ⊢
    -- The offset is within the octets of the first character or behind them.
    by_cases hfirst : offset < (String.utf8EncodeChar c).length
    · refine ⟨0, by simp, ?_⟩
      rw [List.take_append_of_le_length (by omega), count_take_encodeChar hfirst]
      rfl
    · rw [List.length_append] at h
      have hrest : offset - (String.utf8EncodeChar c).length < (Utf8.encode rest).length := by omega
      obtain ⟨place, hplace, hcount⟩ := ih hrest
      refine ⟨place + 1, by simpa using hplace, ?_⟩
      rw [List.take_append, List.take_of_length_le (by omega), List.count_append, hcount,
        count_encodeChar, List.take_succ_cons, List.count_cons, Nat.add_comm]

end Text

open ChangeLens.Text

/-- The parser gave a node the points of its offsets. -/
structure Source.Pointed (source : Source) (node : Tree) : Prop where
  /-- It starts at the point of its first octet. -/
  start : node.label.startPoint = Point.ofOffset source.octets node.label.start
  /-- It ends at the point behind its last octet. -/
  stop : node.label.stopPoint = Point.ofOffset source.octets node.label.stop

/-- An octet stands on the line of some character of the text. -/
theorem Source.exists_lineOf_eq_row (source : Source) {offset : Nat}
    (h : offset < source.octets.length) :
    ∃ place < source.text.toList.length,
      (Point.ofOffset source.octets offset).row + 1 = lineOf source.text.toList place := by
  rw [source.octets_eq] at h
  obtain ⟨place, hplace, hcount⟩ := exists_count_take_eq source.text.toList h
  refine ⟨place, hplace, ?_⟩
  show (source.octets.take offset).count 10 + 1 = _
  rw [source.octets_eq, hcount]
  rfl

/-- Later octets stand on later rows, or on the same one. -/
theorem Point.row_ofOffset_mono (octets : List UInt8) {first last : Nat} (h : first ≤ last) :
    (ofOffset octets first).row ≤ (ofOffset octets last).row := by
  have hshorter : (octets.take first).Sublist (octets.take last) :=
    (List.take_prefix_take_left h).sublist
  exact hshorter.count_le 10

namespace Hunk

/-! ### What the whole file holds -/

/-- The version that a record of this kind belongs to: removals lie in the base version. -/
def textFor (base head : String) (kind : ChangeKind) : String :=
  if kind.isRemoval then base else head

/-- A record is about the whole file, or it starts on the line of some character of the version it
belongs to and does not end before that. -/
def StandsIn (base head : String) (record : Record) : Prop :=
  record.isFileLevel = true ∨
    (∃ offset < (textFor base head record.kind).toList.length,
      record.span.startLine = lineOf (textFor base head record.kind).toList offset) ∧
    record.span.startLine ≤ record.span.endLine

/-- A record at a node that starts in the text and does not end before it starts stands in it. -/
theorem standsIn_of_span {base head : String} {record : Record} {source : Source} {node : Tree}
    (htext : source.text = textFor base head record.kind)
    (hspan : record.span = source.span node) (hpointed : source.Pointed node)
    (hstart : node.label.start < source.octets.length)
    (hordered : node.label.start ≤ node.label.stop) : StandsIn base head record := by
  obtain ⟨place, hplace, hline⟩ := source.exists_lineOf_eq_row hstart
  rw [htext] at hplace hline
  -- The lines of the span are the rows of its points, counted from one.
  have hfirst : (source.span node).startLine =
      ((Point.ofOffset source.octets node.label.start).row : Int) + 1 :=
    congrArg (fun point : Point => (point.row : Int) + 1) hpointed.start
  have hlast : (source.span node).endLine =
      ((Point.ofOffset source.octets node.label.stop).row : Int) + 1 :=
    congrArg (fun point : Point => (point.row : Int) + 1) hpointed.stop
  have hrows := Point.row_ofOffset_mono source.octets hordered
  refine Or.inr ⟨⟨place, hplace, ?_⟩, ?_⟩
  · rw [hspan, hfirst, ← hline]
    rfl
  · rw [hspan, hfirst, hlast]
    omega

/-- Lines from the first one on touch the range over all lines of a text. -/
theorem overlaps_ofCount {first last : Int} {count : Nat} (hfirst : 1 ≤ first) (hlast : first ≤ last)
    (hcount : first ≤ count) : (LineRange.ofCount 1 count).overlaps first last = true := by
  unfold LineRange.overlaps
  rw [Bool.and_eq_true, decide_eq_true_iff, decide_eq_true_iff]
  show max ((1 : Nat) : Int) 1 ≤ last ∧ first ≤ max ((1 : Nat) : Int) 1 + (count - 1 : Nat)
  omega

/-- A record that stands in one of the versions touches the hunk over the whole file. -/
theorem touches_wholeFile {base head : String} {record : Record} (h : StandsIn base head record)
    (file : String) : touches [wholeFile base head file] record = true := by
  rcases h with hlevel | ⟨⟨offset, hoffset, hline⟩, hordered⟩
  · simp [touches, hlevel]
  · -- The range is that of the version to which the record belongs, from its first line to its
    -- last.
    have hrange : (wholeFile base head file).rangeFor record.kind =
        LineRange.ofCount 1 (lines (textFor base head record.kind).toList).length := by
      unfold rangeFor textFor wholeFile
      split <;> rfl
    have hwithin := lineOf_le_length_lines hoffset
    have hfirst : 1 ≤ lineOf (textFor base head record.kind).toList offset := Nat.le_add_left 1 _
    have hoverlaps := overlaps_ofCount (by rw [hline]; omega) hordered
      (show record.span.startLine ≤ (lines (textFor base head record.kind).toList).length by
        rw [hline]; omega)
    simp [touches, hrange, hoverlaps]

/-! ### Patches without a header -/

/-- Lines that hold no header make no hunk. -/
theorem blocks_of_no_header {texts : List (List Char)}
    (h : ∀ line ∈ texts, Header.ofLine? line = none) : blocks texts = (texts, []) := by
  induction texts with
  | nil => rfl
  | cons line texts ih =>
    rw [blocks, ih fun other hother => h other (List.mem_cons_of_mem line hother),
      h line List.mem_cons_self]

/-- A patch without a header leads to one hunk that covers the whole file. -/
theorem forFile_of_no_header {base head file : String} {patch : Option String}
    (h : ∀ line ∈ lines (patch.getD "").toList, Header.ofLine? line = none) :
    forFile base head file patch = [wholeFile base head file] := by
  have hparse : parse (patch.getD "") file = [] := by
    rw [parse, blocks_of_no_header h]
    rfl
  rw [forFile, hparse]

/-- Without a header in the patch, be there no patch at all, there is one hunk, and every record that
is about the file or starts on the line of a character of its version, or at a node of its version
that has the points of its offsets, is kept. A list of such records stays as it is. -/
theorem scope_forFile_of_no_header (base head file : String) (patch : Option String)
    (hpatch : ∀ line ∈ lines (patch.getD "").toList, Header.ofLine? line = none) :
    ∃ hunk, forFile base head file patch = [hunk] ∧
      (∀ records, ∀ record ∈ records, StandsIn base head record →
        record ∈ scope [hunk] records) ∧
      (∀ records, (∀ record ∈ records, StandsIn base head record) →
        scope [hunk] records = records) ∧
      ∀ records, ∀ record ∈ records, ∀ (source : Source) (node : Tree),
        source.text = textFor base head record.kind → record.span = source.span node →
          source.Pointed node → node.label.start < source.octets.length →
            node.label.start ≤ node.label.stop → record ∈ scope [hunk] records := by
  have hkept (records : List Record) (record : Record) (hrecord : record ∈ records)
      (hstands : StandsIn base head record) :
      record ∈ scope [wholeFile base head file] records :=
    List.mem_filter.2 ⟨hrecord, touches_wholeFile hstands file⟩
  refine ⟨wholeFile base head file, forFile_of_no_header hpatch, hkept, ?_, ?_⟩
  · intro records hall
    exact List.filter_eq_self.2 fun record hrecord => touches_wholeFile (hall record hrecord) file
  · intro records record hrecord source node htext hspan hpointed hstart hordered
    exact hkept records record hrecord (standsIn_of_span htext hspan hpointed hstart hordered)

/-- A record that starts on the third line. -/
def lastLineRecord (kind : ChangeKind) : Record where
  kind := kind
  severity := .medium
  file := "a.ts"
  span := ⟨3, 0, 4, 1⟩
  detail := "Function 'f' was changed"
  nodeLabel := "FunctionDeclaration"

/-- With a patch of no use, records on the last line by line feeds are kept in both versions, whatever
other ends the lines have. -/
theorem scope_forFile_of_no_header_mixed :
    ∃ hunk, forFile "a\r\nb\rc\nd" "a\n\nb\u2028" "a.ts" (some "Binary files differ\n+x") = [hunk] ∧
      scope [hunk] [lastLineRecord .functionRemoved, lastLineRecord .functionAdded] =
        [lastLineRecord .functionRemoved, lastLineRecord .functionAdded] := by
  have hstands : ∀ record ∈ [lastLineRecord .functionRemoved, lastLineRecord .functionAdded],
      StandsIn "a\r\nb\rc\nd" "a\n\nb\u2028" record := by
    intro record hrecord
    simp only [List.mem_cons, List.not_mem_nil, or_false] at hrecord
    rcases hrecord with rfl | rfl
    · exact Or.inr ⟨⟨7, by decide, by decide⟩, by decide⟩
    · exact Or.inr ⟨⟨4, by decide, by decide⟩, by decide⟩
  obtain ⟨hunk, hfile, -, hall, -⟩ := scope_forFile_of_no_header "a\r\nb\rc\nd" "a\n\nb\u2028" "a.ts"
    (some "Binary files differ\n+x") (by decide +kernel)
  exact ⟨hunk, hfile, hall _ hstands⟩

end Hunk

end ChangeLens
