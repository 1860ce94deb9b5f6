import ChangeLens.Proofs.Folding
import ChangeLens.Proofs.SitePlaces
import ChangeLens.Proofs.WholeFile
import ChangeLens.Record.Fields
import Mathlib.Data.List.Induction
import Mathlib.Tactic.IntervalCases

/-!
# `ChangeLens.Proofs.Positions`: lines and columns of octet offsets

Syntax trees give rows and columns in octets, records lines and columns in code points. The bridge are
the places between the characters of a text: `Utf8.offsetOf` says at which octet a place is, and an
offset is on a boundary when it is the offset of some place. The column of a point is looked up in the
table of rows, which is made by splitting the octets; `getElem?_splitOn` says that this is the row the
offset is on, and `decode_encode` that the octets of characters read back as these characters. So a
column in octets decodes to a column in code points (`column_offsetOf`).

Lines and columns together grow strictly with the place (`standsBefore_of_lt`). That is why spans are
in order, why two nodes start at the same position only if they start at the same offset, and why no
record at a site is refused for ending before it starts (`span_exact`).
-/

set_option autoImplicit false

namespace ChangeLens

namespace Text

namespace Utf8

/-! ### Octets read back -/

/-- No characters are no octets. -/
theorem encode_nil : encode [] = [] :=
  rfl

/-- Characters are encoded one by one. -/
theorem encode_cons (c : Char) (cs : List Char) :
    encode (c :: cs) = String.utf8EncodeChar c ++ encode cs :=
  List.flatMap_cons

/-- Texts one behind the other are encoded so. -/
theorem encode_append (cs ds : List Char) : encode (cs ++ ds) = encode cs ++ encode ds :=
  List.flatMap_append

/-- The first octet of two promises one more. -/
theorem lead?_two {n : Nat} (hlow : 2 ≤ n) (hhigh : n < 32) :
    lead? (n + 0xc0) = some ⟨1, 0x80, 0xbf, n⟩ := by
  interval_cases n <;> rfl

/-- The first octet of three promises two more, and the first of these must not be too small after
the least first octet, nor be that of a surrogate. -/
theorem lead?_three {n : Nat} (h : n < 16) :
    lead? (n + 0xe0) =
      some ⟨2, if n = 0 then 0xa0 else 0x80, if n = 13 then 0x9f else 0xbf, n⟩ := by
  interval_cases n <;> rfl

/-- The first octet of four promises three more, within the range of all characters. -/
theorem lead?_four {n : Nat} (h : n < 5) :
    lead? (n + 0xf0) =
      some ⟨3, if n = 0 then 0x90 else 0x80, if n = 4 then 0x8f else 0xbf, n⟩ := by
  interval_cases n <;> rfl

/-- An octet within the window is read, and its six bits go behind those gathered before. -/
theorem readTails_cons {low high bits n : Nat} (wanted : Nat) (rest : List UInt8) (hn : n < 64)
    (hlow : low ≤ n + 128) (hhigh : n + 128 ≤ high) :
    readTails low high bits (wanted + 1) (UInt8.ofNat (n + 128) :: rest) =
      ((readTails 0x80 0xbf (64 * bits + n) wanted rest).1 + 1,
        (readTails 0x80 0xbf (64 * bits + n) wanted rest).2) := by
  have hoctet : (UInt8.ofNat (n + 128)).toNat = n + 128 := by
    rw [UInt8.toNat_ofNat']
    omega
  rw [readTails, hoctet]
  simp [hlow, hhigh]

/-- After the first octet every octet that continues a character is read. -/
theorem readTails_next {bits n : Nat} (wanted : Nat) (rest : List UInt8) (hn : n < 64) :
    readTails 0x80 0xbf bits (wanted + 1) (UInt8.ofNat (n + 128) :: rest) =
      ((readTails 0x80 0xbf (64 * bits + n) wanted rest).1 + 1,
        (readTails 0x80 0xbf (64 * bits + n) wanted rest).2) :=
  readTails_cons wanted rest hn (by omega) (by omega)

/-- With no octets to follow, none is read. -/
theorem readTails_zero (low high bits : Nat) (rest : List UInt8) :
    readTails low high bits 0 rest = (0, bits) := by
  cases rest <;> rfl

/-- A first octet beyond ASCII whose following octets all fit gives one character. -/
theorem readChar_of_lead {n : Nat} {lead : Lead} {rest : List UInt8} (bits : Nat) (hn : n < 256)
    (hascii : 0x80 ≤ n) (hlead : lead? n = some lead)
    (htails : readTails lead.low lead.high lead.bits lead.tails rest = (lead.tails, bits)) :
    readChar (UInt8.ofNat n) rest = (some (Char.ofNat bits), lead.tails) := by
  have hoctet : (UInt8.ofNat n).toNat = n := by
    rw [UInt8.toNat_ofNat']
    omega
  rw [readChar, hoctet, if_neg (by omega), hlead]
  simp only [htails, if_true]

/-- One octet gives a character up to seven bits. -/
theorem readChar_one {v : Nat} (h : v ≤ 0x7f) (rest : List UInt8) :
    readChar (UInt8.ofNat v) rest = (some (Char.ofNat v), 0) := by
  have hoctet : (UInt8.ofNat v).toNat = v := by
    rw [UInt8.toNat_ofNat']
    omega
  rw [readChar, hoctet, if_pos (by omega)]

/-- Two octets give one up to eleven bits. -/
theorem readChar_two {v : Nat} (hlow : 0x7f < v) (hhigh : v ≤ 0x7ff) (rest : List UInt8) :
    readChar (UInt8.ofNat (v / 64 % 32 + 0xc0)) (UInt8.ofNat (v % 64 + 0x80) :: rest) =
      (some (Char.ofNat v), 1) := by
  refine readChar_of_lead v (by omega) (by omega) (lead?_two (by omega) (by omega)) ?_
  dsimp only
  rw [readTails_next 0 rest (by omega), readTails_zero, Prod.mk.injEq]
  omega

/-- Three octets give one up to sixteen bits that is no half of a pair. -/
theorem readChar_three {v : Nat} (hlow : 0x7ff < v) (hhigh : v ≤ 0xffff)
    (hvalid : v < 0xd800 ∨ 0xdfff < v) (rest : List UInt8) :
    readChar (UInt8.ofNat (v / 4096 % 16 + 0xe0))
        (UInt8.ofNat (v / 64 % 64 + 0x80) :: UInt8.ofNat (v % 64 + 0x80) :: rest) =
      (some (Char.ofNat v), 2) := by
  refine readChar_of_lead v (by omega) (by omega) (lead?_three (by omega)) ?_
  dsimp only
  -- The window of the second octet leaves out what two octets suffice for, and surrogates.
  rw [readTails_cons 1 _ (by omega) (by split <;> omega) (by split <;> omega),
    readTails_next 0 rest (by omega), readTails_zero, Prod.mk.injEq]
  omega

/-- Four octets give the characters above. -/
theorem readChar_four {v : Nat} (hlow : 0xffff < v) (hhigh : v < 0x110000) (rest : List UInt8) :
    readChar (UInt8.ofNat (v / 262144 % 8 + 0xf0))
        (UInt8.ofNat (v / 4096 % 64 + 0x80) :: UInt8.ofNat (v / 64 % 64 + 0x80) ::
          UInt8.ofNat (v % 64 + 0x80) :: rest) =
      (some (Char.ofNat v), 3) := by
  refine readChar_of_lead v (by omega) (by omega) (lead?_four (by omega)) ?_
  dsimp only
  rw [readTails_cons 2 _ (by omega) (by split <;> omega) (by split <;> omega),
    readTails_next 1 _ (by omega), readTails_next 0 rest (by omega), readTails_zero, Prod.mk.injEq]
  omega

/-- The octets of a character read back as that character, whatever follows them. -/
theorem readChar_encodeChar (c : Char) (rest : List UInt8) :
    ∃ octet tails, String.utf8EncodeChar c = octet :: tails ∧
      readChar octet (tails ++ rest) = (some c, tails.length) := by
  have hvalid : c.val.toNat < 0xd800 ∨ 0xdfff < c.val.toNat ∧ c.val.toNat < 0x110000 := c.valid
  -- Reading gives the number of the character, and that number gives the character.
  have hread {octet : UInt8} {octets : List UInt8} {count : Nat}
      (h : readChar octet octets = (some (Char.ofNat c.val.toNat), count)) :
      readChar octet octets = (some c, count) := by
    rw [h]
    exact congrArg (fun char => (some char, count)) (Char.ofNat_toNat c)
  rw [String.utf8EncodeChar]
  split
  · -- One case for each number of octets, which are told apart by the bits in front.
    exact ⟨_, [], rfl, hread (readChar_one (by assumption) rest)⟩
  · rename_i hone
    split
    · rename_i htwo
      exact ⟨_, _, rfl, hread (readChar_two (Nat.lt_of_not_le hone) htwo rest)⟩
    · rename_i htwo
      split
      · rename_i hthree
        exact ⟨_, _, rfl, hread (readChar_three (Nat.lt_of_not_le htwo) hthree (by omega) rest)⟩
      · rename_i hthree
        exact ⟨_, _, rfl, hread (readChar_four (Nat.lt_of_not_le hthree) (by omega) rest)⟩

/-- Octets that belong to the character before are skipped. -/
theorem readFrom_length_append (tails rest : List UInt8) :
    readFrom tails.length (tails ++ rest) = readFrom 0 rest := by
  induction tails with
  | nil => rfl
  | cons octet tails ih => exact ih

/-- Octets of characters read back as these characters. -/
theorem decode_encode (cs : List Char) : decode (encode cs) = cs := by
  have hread : readFrom 0 (encode cs) = cs.map some := by
    induction cs with
    | nil => rfl
    | cons c cs ih =>
      obtain ⟨octet, tails, hencode, hchar⟩ := readChar_encodeChar c (encode cs)
      rw [encode_cons, hencode, List.cons_append, readFrom, hchar]
      simp only [readFrom_length_append, ih, List.map_cons]
  rw [decode, hread, List.map_map]
  exact List.map_id cs

/-! ### Places and offsets -/

/-- The offset of the octet at which the character at a place starts. -/
def offsetOf (cs : List Char) (place : Nat) : Nat :=
  (encode (cs.take place)).length

/-- An offset that is not inside a character. -/
def IsBoundary (cs : List Char) (offset : Nat) : Prop :=
  ∃ place ≤ cs.length, offset = offsetOf cs place

/-- The octets before a place are those of the characters before it. -/
theorem take_offsetOf (cs : List Char) (place : Nat) :
    (encode cs).take (offsetOf cs place) = encode (cs.take place) := by
  have hsplit : encode cs = encode (cs.take place) ++ encode (cs.drop place) := by
    rw [← encode_append, List.take_append_drop]
  rw [hsplit, offsetOf, List.take_left]

/-- Every character takes some octets. -/
theorem offsetOf_succ {cs : List Char} {place : Nat} (h : place < cs.length) :
    offsetOf cs place < offsetOf cs (place + 1) := by
  obtain ⟨octet, tails, hencode, -⟩ := readChar_encodeChar cs[place] []
  rw [offsetOf, offsetOf, List.take_succ_eq_append_getElem h, encode_append, encode_cons, hencode,
    List.length_append]
  simp

/-- Later places are at later offsets. -/
theorem offsetOf_lt {cs : List Char} {place other : Nat} (h : place < other)
    (hother : other ≤ cs.length) : offsetOf cs place < offsetOf cs other := by
  induction other, h using Nat.le_induction with
  | base => exact offsetOf_succ hother
  | succ other h ih => exact (ih (by omega)).trans (offsetOf_succ hother)

/-- Places are in the order of their offsets. -/
theorem offsetOf_le_iff {cs : List Char} {place other : Nat} (hplace : place ≤ cs.length)
    (hother : other ≤ cs.length) : offsetOf cs place ≤ offsetOf cs other ↔ place ≤ other := by
  constructor
  · intro hle
    by_contra hlt
    have := offsetOf_lt (Nat.lt_of_not_le hlt) hplace
    omega
  · intro hle
    rcases Nat.lt_or_eq_of_le hle with hlt | rfl
    · exact (offsetOf_lt hlt hother).le
    · exact Nat.le_refl _

end Utf8

/-! ### Lines and columns of places -/

/-- The number of characters between the last line feed before a place and the place. -/
def columnOf (cs : List Char) (place : Nat) : Nat :=
  ((cs.take place).reverse.takeWhile (· != '\n')).length

/-- A place is before another one: on an earlier line, or on the same line in an earlier column. -/
def StandsBefore (cs : List Char) (place other : Nat) : Prop :=
  lineOf cs place < lineOf cs other ∨
    lineOf cs place = lineOf cs other ∧ columnOf cs place < columnOf cs other

/-- Behind a line feed a new line starts, and behind any other character stands the next column. -/
theorem standsBefore_succ {cs : List Char} {place : Nat} (h : place < cs.length) :
    StandsBefore cs place (place + 1) := by
  unfold StandsBefore lineOf columnOf
  rw [List.take_succ_eq_append_getElem h]
  generalize cs.take place = before, cs[place] = c
  by_cases hc : c = '\n'
  · left
    simp [hc]
  · right
    simp [hc]

/-- Being before is transitive. -/
theorem StandsBefore.trans {cs : List Char} {first second third : Nat}
    (h : StandsBefore cs first second) (h' : StandsBefore cs second third) :
    StandsBefore cs first third := by
  unfold StandsBefore at *
  omega

/-- Lines and columns grow with the place. -/
theorem standsBefore_of_lt {cs : List Char} {place other : Nat} (h : place < other)
    (hother : other ≤ cs.length) : StandsBefore cs place other := by
  induction other, h using Nat.le_induction with
  | base => exact standsBefore_succ hother
  | succ other h ih => exact (ih (by omega)).trans (standsBefore_succ hother)

/-- A place is known by its line and column. -/
theorem eq_of_lineOf_eq {cs : List Char} {place other : Nat} (hplace : place ≤ cs.length)
    (hother : other ≤ cs.length) (hline : lineOf cs place = lineOf cs other)
    (hcolumn : columnOf cs place = columnOf cs other) : place = other := by
  rcases Nat.lt_trichotomy place other with hlt | heq | hgt
  · have := standsBefore_of_lt hlt hother
    unfold StandsBefore at this
    omega
  · exact heq
  · have := standsBefore_of_lt hgt hplace
    unfold StandsBefore at this
    omega

/-! ### Lines and columns of octets -/

/-- There are as many line feeds among the octets as among the characters. -/
theorem count_encode (cs : List Char) : (Utf8.encode cs).count 10 = cs.count '\n' := by
  induction cs with
  | nil => rfl
  | cons c cs ih =>
    rw [Utf8.encode_cons, List.count_append, count_encodeChar, ih, List.count_cons, Nat.add_comm]

/-- The octets behind the last line feed are those of the characters behind it. -/
theorem takeWhile_encode (cs : List Char) :
    ((Utf8.encode cs).reverse.takeWhile (· != 10)).reverse =
      Utf8.encode (cs.reverse.takeWhile (· != '\n')).reverse := by
  -- Read from the back, one character after the other, up to the first line feed.
  induction cs using List.reverseRecOn with
  | nil => rfl
  | append_singleton cs c ih =>
    rw [Utf8.encode_append, Utf8.encode_cons, Utf8.encode_nil, List.append_nil, List.reverse_append,
      List.reverse_append, List.reverse_singleton, List.singleton_append]
    by_cases hc : c = '\n'
    · subst hc
      rfl
    · -- None of the octets of another character is a line feed, not even of a long one.
      have hoctets : ∀ octet ∈ (String.utf8EncodeChar c).reverse, (octet != 10) = true := by
        intro octet hoctet
        refine bne_iff_ne.2 fun heq => lineFeed_not_mem_encodeChar hc ?_
        rw [← heq]
        exact List.mem_reverse.1 hoctet
      have hchar : (c != '\n') = true := bne_iff_ne.2 hc
      rw [List.takeWhile_append_of_pos hoctets, List.takeWhile_cons, if_pos hchar,
        List.reverse_append, List.reverse_reverse, ih, List.reverse_cons, Utf8.encode_append,
        Utf8.encode_cons, Utf8.encode_nil, List.append_nil]

/-! ### Rows -/

/-- The first row ends at the first separator. -/
theorem head?_splitOn {α : Type} [BEq α] (sep : α) (items : List α) :
    (items.splitOn sep).head? = some (items.takeWhile (· != sep)) := by
  induction items with
  | nil => rfl
  | cons item items ih =>
    rw [List.splitOn_cons_eq_if_modifyHead, List.takeWhile_cons, bne]
    cases item == sep with
    | true => rfl
    | false =>
      rw [if_neg Bool.false_ne_true, List.head?_modifyHead, ih]
      rfl

/-- There is one more row than there are separators. -/
theorem length_splitOn {α : Type} [BEq α] (sep : α) (items : List α) :
    (items.splitOn sep).length = items.count sep + 1 := by
  induction items with
  | nil => rfl
  | cons item items ih =>
    rw [List.splitOn_cons_eq_if_modifyHead, List.count_cons]
    split
    · rw [List.length_cons, ih]
    · rw [List.length_modifyHead, ih]

/-- The row with as many separators in front of it as there are before a place is the row the place
is in: it goes from the last separator before the place to the first one behind it. -/
theorem getElem?_splitOn {α : Type} [BEq α] (sep : α) (before after : List α) :
    ((before ++ after).splitOn sep)[before.count sep]? =
      some ((before.reverse.takeWhile (· != sep)).reverse ++ after.takeWhile (· != sep)) := by
  -- Items move one by one from the end of the first part to the front of the second one.
  induction before using List.reverseRecOn generalizing after with
  | nil =>
    rw [List.nil_append, List.count_nil, ← List.head?_eq_getElem?, head?_splitOn]
    rfl
  | append_singleton before item ih =>
    rw [List.append_assoc, List.singleton_append, List.count_append, List.count_singleton,
      List.reverse_append, List.reverse_singleton, List.singleton_append, List.takeWhile_cons]
    cases hitem : item == sep with
    | true =>
      -- The last item of the first part is a separator: a new part begins right behind it.
      have hsplit : (before ++ item :: after).splitOn sep =
          before.splitOn sep ++ after.splitOn sep := List.splitOnP_append_cons before after hitem
      rw [hsplit, List.getElem?_append_right (by rw [length_splitOn]; rfl), length_splitOn,
        if_pos rfl, Nat.sub_self, ← List.head?_eq_getElem?, head?_splitOn, bne, hitem]
      rfl
    | false =>
      rw [if_neg Bool.false_ne_true, Nat.add_zero, ih, List.takeWhile_cons, bne, hitem]
      simp

end Text

open ChangeLens.Text

/-- The column of an offset counts the octets behind the last line feed. -/
theorem Point.column_ofOffset {octets : List UInt8} {offset : Nat} (h : offset ≤ octets.length) :
    (ofOffset octets offset).column =
      ((octets.take offset).reverse.takeWhile (· != 10)).length := by
  have hlength := congrArg List.length
    (List.takeWhile_append_dropWhile (p := (· != (10 : UInt8))) (l := (octets.take offset).reverse))
  rw [List.length_append, List.length_reverse, List.length_take_of_le h] at hlength
  show offset - ((octets.take offset).reverse.dropWhile (· != 10)).length = _
  omega

namespace Source

/-- The row of a place is the number of line feeds before it. -/
theorem row_offsetOf (source : Source) (place : Nat) :
    (Point.ofOffset source.octets (Utf8.offsetOf source.text.toList place)).row + 1 =
      lineOf source.text.toList place := by
  show (source.octets.take _).count 10 + 1 = _
  rw [source.octets_eq, Utf8.take_offsetOf, count_encode]
  rfl

/-- The column of a point is decoded from the part of its row before it: these are the octets behind
the last line feed. -/
theorem column_ofOffset (source : Source) {offset : Nat} (h : offset ≤ source.octets.length) :
    source.column (Point.ofOffset source.octets offset) =
      (Utf8.decode ((source.octets.take offset).reverse.takeWhile (· != 10)).reverse).length := by
  have hrow := getElem?_splitOn 10 (source.octets.take offset) (source.octets.drop offset)
  rw [List.take_append_drop] at hrow
  unfold column rows
  rw [show (Point.ofOffset source.octets offset).row = (source.octets.take offset).count 10 from rfl,
    hrow, Point.column_ofOffset h]
  dsimp only
  rw [List.take_left' List.length_reverse]

/-- The column of a place counts the characters behind the last line feed before it. -/
theorem column_offsetOf (source : Source) {place : Nat} (h : place ≤ source.text.toList.length) :
    source.column (Point.ofOffset source.octets (Utf8.offsetOf source.text.toList place)) =
      columnOf source.text.toList place := by
  have hoffset : Utf8.offsetOf source.text.toList place ≤ source.octets.length := by
    have hlength : source.octets.length =
        Utf8.offsetOf source.text.toList source.text.toList.length := by
      rw [source.octets_eq, Utf8.offsetOf, List.take_length]
    rw [hlength, Utf8.offsetOf_le_iff h (Nat.le_refl _)]
    exact h
  rw [column_ofOffset source hoffset, source.octets_eq, Utf8.take_offsetOf, takeWhile_encode,
    Utf8.decode_encode, List.length_reverse]
  rfl

/-- A node that does not end before it starts, with both offsets at boundaries of characters and the
points of its offsets. -/
structure Locates (source : Source) (node : Tree) : Prop where
  /-- It does not end before it starts. -/
  ordered : node.label.start ≤ node.label.stop
  /-- It starts at a boundary. -/
  start : Utf8.IsBoundary source.text.toList node.label.start
  /-- It ends at a boundary. -/
  stop : Utf8.IsBoundary source.text.toList node.label.stop
  /-- Its points are those of its offsets. -/
  points : source.Pointed node

variable {source : Source} {node other : Tree}

/-- The span of a node is that of the places where it starts and ends. -/
theorem Locates.exists_span_eq (h : source.Locates node) :
    ∃ first last, first ≤ last ∧ last ≤ source.text.toList.length ∧
      node.label.start = Utf8.offsetOf source.text.toList first ∧
      node.label.stop = Utf8.offsetOf source.text.toList last ∧
      source.span node =
        ⟨lineOf source.text.toList first, columnOf source.text.toList first,
          lineOf source.text.toList last, columnOf source.text.toList last⟩ := by
  obtain ⟨first, hfirst, hstart⟩ := h.start
  obtain ⟨last, hlast, hstop⟩ := h.stop
  have hordered := h.ordered
  rw [hstart, hstop, Utf8.offsetOf_le_iff hfirst hlast] at hordered
  refine ⟨first, last, hordered, hlast, hstart, hstop, ?_⟩
  rw [span, h.points.start, h.points.stop, hstart, hstop, column_offsetOf source hfirst,
    column_offsetOf source hlast, ← row_offsetOf, ← row_offsetOf]
  rfl

/-- A node that is located in a text ends no earlier than it starts. -/
theorem Locates.isOrdered (h : source.Locates node) : (source.span node).isOrdered = true := by
  obtain ⟨first, last, hordered, hlast, -, -, hspan⟩ := h.exists_span_eq
  rw [hspan, Span.isOrdered, Position.atOrBefore_iff]
  simp only [Span.position, Span.endPosition]
  rcases Nat.lt_or_eq_of_le hordered with hlt | rfl
  · have hbefore := standsBefore_of_lt hlt hlast
    unfold StandsBefore at hbefore
    omega
  · omega

/-- Nodes that start at the same position start at the same offset. -/
theorem Locates.position_eq_iff (h : source.Locates node) (h' : source.Locates other) :
    (source.span node).position = (source.span other).position ↔
      node.label.start = other.label.start := by
  constructor
  · intro heq
    obtain ⟨first, last, hordered, hlast, hstart, -, hspan⟩ := h.exists_span_eq
    obtain ⟨first', last', hordered', hlast', hstart', -, hspan'⟩ := h'.exists_span_eq
    rw [hspan, hspan'] at heq
    simp only [Span.position, Position.mk.injEq, Int.natCast_inj] at heq
    rw [hstart, hstart', eq_of_lineOf_eq (by omega) (by omega) heq.1 heq.2]
  · intro heq
    rw [Span.position, Span.position, span, span, h.points.start, h'.points.start, heq]

end Source

/-- A record with an ordered range is accepted. -/
theorem Record.ofFields_of_isOrdered {place : Span} (h : place.isOrdered = true) (kind : ChangeKind)
    (severity : Severity) (file detail label : String) (context : Option String) :
    Record.ofFields ⟨.text kind.name, .text severity.name, file, place, detail, label, context⟩ =
      .ok ⟨kind, severity, file, place, detail, label, context⟩ := by
  have hkind : readKind (.text kind.name) = .ok kind := by cases kind <;> rfl
  have hseverity : readSeverity (.text severity.name) = .ok severity := by cases severity <;> rfl
  rw [ofFields, hkind, hseverity]
  simp [h, bind, Except.bind]

namespace Source

/-- The span of a node whose offsets are in order and on boundaries, and whose points are those of
its offsets, says on which lines the node starts and ends, counted by the line feeds before, and in
which columns, counted in code points behind the last of them. It does not end before it starts, and
its start tells the start of the node apart from that of every other one. So where all nodes of a
tree have such offsets, a record can be made at every site of the model. -/
theorem span_exact (source : Source) (node : Tree) (h : source.Locates node) :
    (∃ first last, first ≤ last ∧ last ≤ source.text.toList.length ∧
      node.label.start = Utf8.offsetOf source.text.toList first ∧
      node.label.stop = Utf8.offsetOf source.text.toList last ∧
      (source.span node).startLine = 1 + (source.text.toList.take first).count '\n' ∧
      (source.span node).startColumn = columnOf source.text.toList first ∧
      (source.span node).endLine = 1 + (source.text.toList.take last).count '\n' ∧
      (source.span node).endColumn = columnOf source.text.toList last) ∧
    (source.span node).isOrdered = true ∧
    (∀ other, source.Locates other →
      ((source.span node).position = (source.span other).position ↔
        node.label.start = other.label.start)) ∧
    (∀ tree dialect, source.tree = some tree → (∀ inner ∈ tree.walk, source.Locates inner) →
      ∀ place ∈ (Model.ofSource source dialect).spans,
        ∀ kind severity file detail label context,
          Record.ofFields
              ⟨.text (ChangeKind.name kind), .text (Severity.name severity), file, place, detail,
                label, context⟩ =
            .ok ⟨kind, severity, file, place, detail, label, context⟩) := by
  refine ⟨?_, h.isOrdered, fun other hother => h.position_eq_iff hother, ?_⟩
  · obtain ⟨first, last, hordered, hlast, hstart, hstop, hspan⟩ := h.exists_span_eq
    refine ⟨first, last, hordered, hlast, hstart, hstop, ?_⟩
    rw [hspan]
    simp [lineOf, Int.add_comm]
  · intro tree dialect htree hnodes place hplace
    obtain ⟨_, htree', inner, hinner, rfl⟩ := Extract.exists_span_of_mem_spans hplace
    obtain rfl := Option.some.inj (htree.symm.trans htree')
    exact Record.ofFields_of_isOrdered (hnodes inner hinner).isOrdered

/-- A throw statement on the second line, which starts with a character of four octets. -/
def wideTree : Tree :=
  .node ⟨0, "program", "", true, 0, 8, ⟨0, 0⟩, ⟨1, 5⟩⟩
    [.node ⟨1, "throw_statement", "", true, 3, 8, ⟨1, 0⟩, ⟨1, 5⟩⟩
      [.node ⟨2, "identifier", "", true, 7, 8, ⟨1, 4⟩, ⟨1, 5⟩⟩ []]]

/-- The text of `wideTree`, with characters of two, one, four and one octets. -/
def wideSource : Source where
  text := "é\n😀x"
  tree := some wideTree

/-- Columns count characters and not octets, and a record about the statement is accepted. -/
theorem span_exact_wide :
    (∀ node ∈ wideTree.walk, wideSource.Locates node) ∧
    (∀ node ∈ wideTree.walk, (wideSource.span node).isOrdered = true) ∧
    wideTree.walk.map wideSource.span = [⟨1, 0, 2, 2⟩, ⟨2, 0, 2, 2⟩, ⟨2, 1, 2, 2⟩] ∧
    Record.ofFields
        ⟨.text "throwAdded", .text "high", "a.ts", ⟨2, 0, 2, 2⟩, "Throw", "ThrowStatement", none⟩ =
      .ok ⟨.throwAdded, .high, "a.ts", ⟨2, 0, 2, 2⟩, "Throw", "ThrowStatement", none⟩ := by
  -- Three nodes, each with two points and the two lines on which they lie.
  have hnodes : ∀ node ∈ wideTree.walk, wideSource.Locates node := by
    simp only [wideTree, Tree.walk, Tree.walkAll, List.forall_mem_cons, List.append_nil]
    refine ⟨⟨?_, ?_, ?_, ?_⟩, ⟨?_, ?_, ?_, ?_⟩, ⟨?_, ?_, ?_, ?_⟩, List.forall_mem_nil _⟩
    · decide
    · exact ⟨0, by decide, by decide⟩
    · exact ⟨4, by decide, by decide⟩
    · exact ⟨by decide, by decide⟩
    · decide
    · exact ⟨2, by decide, by decide⟩
    · exact ⟨4, by decide, by decide⟩
    · exact ⟨by decide, by decide⟩
    · decide
    · exact ⟨3, by decide, by decide⟩
    · exact ⟨4, by decide, by decide⟩
    · exact ⟨by decide, by decide⟩
  refine ⟨hnodes, fun node hnode => (span_exact wideSource node (hnodes node hnode)).2.1,
    by decide +kernel, ?_⟩
  obtain ⟨-, -, -, hrecord⟩ :=
    span_exact wideSource wideTree (hnodes wideTree (Tree.mem_walk_self wideTree))
  exact hrecord wideTree "typescript" rfl hnodes ⟨2, 0, 2, 2⟩ (by decide +kernel) .throwAdded .high
    "a.ts" "Throw" "ThrowStatement" none

end Source

end ChangeLens
