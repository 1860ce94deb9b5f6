import ChangeLens.TypeText
import Mathlib.Data.List.Nodup

/-!
# `ChangeLens.Proofs.TypeMembers`: cutting, joining and sorting members

The canonical text of a type is found by cutting it at separators, sorting the pieces and joining
them again. This module says what these steps do to texts that are put together from pieces.

A text without blanks and slashes is its own tidy form (`tidy_eq_self`). Cutting is described by
`Passes`: the scan goes over a text without a cut and comes out at the depth where it went in. Texts
that pass can be put one behind the other and into brackets, so the property is built up along a
text. Joined pieces that pass are cut into exactly these pieces (`splitTopLevel_join`), and sorting
the members of a joined text sorts the pieces (`sortMembers_join`).
-/

set_option autoImplicit false

namespace ChangeLens.TypeText

open ChangeLens.Text

/-! ### Names -/

/-- Characters of names: letters, digits, `_` and `$`, and beyond ASCII everything but blanks. -/
def isNameChar (c : Char) : Bool :=
  !isBlank c && (c.isAlphanum || c == '_' || c == '$' || 128 ≤ c.toNat)

/-- The name of a type. -/
structure Name where
  /-- Its characters. -/
  chars : List Char
  /-- There is one. -/
  nonempty : chars ≠ []
  /-- They can stand in names. -/
  valid : ∀ c ∈ chars, isNameChar c = true
deriving DecidableEq

/-- A name is its characters. -/
theorem Name.ext {a b : Name} (h : a.chars = b.chars) : a = b := by
  cases a
  cases b
  cases h
  rfl

/-- Characters of names are no blanks. -/
theorem isBlank_of_isNameChar {c : Char} (h : isNameChar c = true) : isBlank c = false := by
  rw [isNameChar, Bool.and_eq_true, Bool.not_eq_true'] at h
  exact h.1

/-- A character of a name differs from every character that stands in no name. -/
theorem ne_of_isNameChar {c sign : Char} (h : isNameChar c = true) (hsign : isNameChar sign = false) :
    c ≠ sign := by
  rintro rfl
  rw [h] at hsign
  cases hsign

/-- A name has no sign. -/
theorem Name.not_mem (name : Name) {sign : Char} (hsign : isNameChar sign = false) :
    sign ∉ name.chars :=
  fun hmem => ne_of_isNameChar (name.valid sign hmem) hsign rfl

/-- The name with these characters. -/
def Name.ofText (text : String) (h : (!text.toList.isEmpty && text.toList.all isNameChar) = true) :
    Name where
  chars := text.toList
  nonempty := by
    rw [Bool.and_eq_true, Bool.not_eq_true', List.isEmpty_eq_false_iff] at h
    exact h.1
  valid := by
    rw [Bool.and_eq_true, List.all_eq_true] at h
    exact h.2

/-! ### Layout -/

/-- A rule that never applies changes nothing. -/
theorem substitute_eq_self {rule : Rule} {cs : List Char}
    (h : ∀ before rest, rest <:+ cs → rest ≠ [] → rule before rest = none) :
    substitute rule cs = cs := by
  -- The text in front is general, because a rule may look at the character before.
  have hfrom (cs : List Char) (before : Option Char)
      (h : ∀ before rest, rest <:+ cs → rest ≠ [] → rule before rest = none) :
      substituteFrom rule before 0 cs = cs := by
    induction cs generalizing before with
    | nil => rfl
    | cons c rest ih =>
      have hrest := ih (some c) fun before suffix hsuffix =>
        h before suffix (hsuffix.trans (List.suffix_cons c rest))
      rw [substituteFrom, h before (c :: rest) (List.suffix_refl _) (List.cons_ne_nil _ _)]
      exact congrArg (c :: ·) hrest
  exact hfrom cs none h

/-- Without a slash there is no comment. -/
theorem stripComments_eq_self {cs : List Char} (h : '/' ∉ cs) : stripComments cs = cs := by
  -- Both sorts of comments begin with a slash, and there is none.
  have hblock : substitute blockComment cs = cs := by
    refine substitute_eq_self fun before rest hsuffix _ => ?_
    unfold blockComment
    split
    · exact absurd (hsuffix.subset List.mem_cons_self) h
    · rfl
  have hline : substitute lineComment cs = cs := by
    refine substitute_eq_self fun before rest hsuffix _ => ?_
    simp only [lineComment]
    split
    · exact absurd (hsuffix.subset List.mem_cons_self) h
    · exact absurd (hsuffix.subset (List.mem_cons_of_mem _ List.mem_cons_self)) h
    · rfl
  rw [stripComments, hblock, hline]

/-- Without blanks there is nothing to collapse. -/
theorem collapseBlanks_eq_self {cs : List Char} (h : ∀ c ∈ cs, isBlank c = false) :
    collapseBlanks cs = cs := by
  have hruns : collapseRuns false cs = cs := by
    induction cs with
    | nil => rfl
    | cons c rest ih =>
      rw [List.forall_mem_cons] at h
      simp [collapseRuns, h.1, ih h.2]
  have hdrop (cs : List Char) (h : ∀ c ∈ cs, isBlank c = false) : cs.dropWhile isBlank = cs := by
    cases cs with
    | nil => rfl
    | cons c rest => exact List.dropWhile_cons_of_neg (by simp [h c List.mem_cons_self])
  rw [collapseBlanks, hruns, stripWhile, dropWhileEnd, hdrop cs h,
    hdrop cs.reverse fun c hc => h c (List.mem_reverse.1 hc), List.reverse_reverse]

/-- Without blanks there is nothing to tighten. -/
theorem tighten_eq_self (tight : Char → Bool) (after : Bool) {cs : List Char}
    (h : ∀ c ∈ cs, isBlank c = false) : tighten tight after cs = cs := by
  induction cs generalizing after with
  | nil => rfl
  | cons c rest ih =>
    rw [List.forall_mem_cons] at h
    simp [tighten, h.1, ih _ h.2]

/-- Without blanks and slashes there is neither layout nor a comment. -/
theorem tidy_eq_self {cs : List Char} (hblank : ∀ c ∈ cs, isBlank c = false) (hslash : '/' ∉ cs) :
    tidy cs = cs := by
  rw [tidy, stripComments_eq_self hslash, collapseBlanks_eq_self hblank, tighten_eq_self _ _ hblank,
    tighten_eq_self _ _ hblank]

/-- A rule takes a word where one begins. -/
theorem afterWord?_eq_some {word cs rest : List Char} {before : Option Char}
    (h : afterWord? word before cs = some rest) :
    before.any isWord = false ∧ cs = word ++ rest := by
  rw [afterWord?] at h
  split at h
  · rename_i hword
    rw [Bool.and_eq_true, Bool.not_eq_true', List.isPrefixOf_iff_prefix] at hword
    obtain ⟨suffix, rfl⟩ := hword.2
    rw [List.drop_left, Option.some.injEq] at h
    exact ⟨hword.1, by rw [h]⟩
  · cases h

/-- Without angle brackets neither rule matches. -/
theorem substitute_spelling_eq_self {cs : List Char} (h : '<' ∉ cs) :
    substitute arrayRule cs = cs ∧ substitute partialPickRule cs = cs := by
  -- Both rules look for a word with an angle bracket.
  have hword (word : List Char) (hangle : '<' ∈ word) (before : Option Char) (rest : List Char)
      (hsuffix : rest <:+ cs) : afterWord? word before rest = none := by
    refine Option.eq_none_iff_forall_ne_some.2 fun after hafter => h (hsuffix.subset ?_)
    rw [(afterWord?_eq_some hafter).2]
    exact List.mem_append_left _ hangle
  constructor
  · refine substitute_eq_self fun before rest hsuffix _ => ?_
    rw [arrayRule, hword _ (by decide) before rest hsuffix]
    rfl
  · refine substitute_eq_self fun before rest hsuffix _ => ?_
    rw [partialPickRule, hword _ (by decide) before rest hsuffix]
    rfl

/-- Without angle brackets there is nothing to respell. -/
theorem respellUpTo_eq_self {cs : List Char} (h : '<' ∉ cs) (passes : Nat) :
    respellUpTo passes cs = cs := by
  cases passes with
  | zero => rfl
  | succ passes =>
    have hrespell : respell cs = cs := by
      rw [respell, (substitute_spelling_eq_self h).1, (substitute_spelling_eq_self h).2]
    simp [respellUpTo, hrespell]

/-! ### Scanning -/

namespace Scan

/-- No literal is open, and a `>` here would close a bracket. -/
structure Calm (scan : Scan) : Prop where
  /-- No literal is open. -/
  quote : scan.quote = none
  /-- The last character was no equals sign. -/
  previous : scan.previous ≠ some '='

/-- A scan begins calm. -/
theorem initial_calm : ({} : Scan).Calm :=
  ⟨rfl, by simp⟩

end Scan

/-- Characters that open or close something, or change what `>` means. -/
def structural : List Char :=
  ['\x27', '"', '\x60', '(', '[', '\x7b', '<', ')', ']', '\x7d', '>', '=']

/-- Characters that neither open nor close anything. -/
def isNeutral (c : Char) : Bool :=
  !structural.contains c

/-- Characters of names neither open nor close anything. -/
theorem isNeutral_of_isNameChar {c : Char} (h : isNameChar c = true) : isNeutral c = true := by
  have hstructural : structural.all (!isNameChar ·) = true := by decide
  rw [isNeutral, Bool.not_eq_true', Bool.eq_false_iff]
  intro hc
  have hsign := List.all_eq_true.1 hstructural c (List.contains_iff_mem.1 hc)
  rw [h] at hsign
  cases hsign

namespace Scan

variable {scan : Scan} {c : Char}

/-- Outside of literals a neutral character is remembered and changes nothing else. -/
theorem next_of_neutral (h : scan.quote = none) (hc : isNeutral c = true) :
    scan.next c = { scan with previous := some c } := by
  simp only [isNeutral, structural, List.contains_cons, Bool.not_eq_true', Bool.or_eq_false_iff,
    beq_eq_false_iff_ne, ne_eq] at hc
  simp [next, h, hc]

/-- It leaves the scan calm. -/
theorem calm_next_of_neutral (h : scan.quote = none) (hc : isNeutral c = true) :
    (scan.next c).Calm := by
  rw [next_of_neutral h hc]
  refine ⟨h, ?_⟩
  rintro ⟨⟩
  exact absurd hc (by decide)

/-- A neutral separator cuts exactly at the top level. -/
theorem isCut_of_neutral (h : scan.quote = none) {separator : Char}
    (hseparator : isNeutral separator = true) :
    scan.isCut separator c = (scan.depth == 0 && c == separator) := by
  simp only [isNeutral, structural, List.contains_cons, Bool.not_eq_true', Bool.or_eq_false_iff,
    beq_eq_false_iff_ne, ne_eq] at hseparator
  cases hc : c == separator with
  | true =>
    cases eq_of_beq hc
    simp [isCut, h, hseparator]
  | false => simp [isCut, hc]

/-- A character that opens or closes something is no cut. -/
theorem isCut_of_structural (h : scan.quote = none) {separator : Char}
    (hseparator : isNeutral separator = true) (hc : isNeutral c = false) :
    scan.isCut separator c = false := by
  rw [isCut_of_neutral h hseparator, Bool.and_eq_false_iff]
  right
  rw [beq_eq_false_iff_ne]
  rintro rfl
  rw [hc] at hseparator
  cases hseparator

/-- An opening bracket leads one level down. -/
theorem next_of_opening (h : scan.Calm) (hc : c ∈ ['(', '[', '<']) :
    (scan.next c).Calm ∧ (scan.next c).depth = scan.depth + 1 := by
  simp only [List.mem_cons, List.not_mem_nil, or_false] at hc
  rcases hc with rfl | rfl | rfl <;>
    exact ⟨⟨by simp [next, h.quote], by simp [next, h.quote]⟩, by simp [next, h.quote]⟩

/-- A closing bracket leads one level up. -/
theorem next_of_closing (h : scan.Calm) (hc : c ∈ [')', ']', '>']) :
    (scan.next c).Calm ∧ (scan.next c).depth = scan.depth - 1 := by
  have hprevious := h.previous
  simp only [List.mem_cons, List.not_mem_nil, or_false] at hc
  rcases hc with rfl | rfl | rfl <;>
    exact ⟨⟨by simp [next, h.quote, hprevious], by simp [next, h.quote, hprevious]⟩,
      by simp [next, h.quote, hprevious]⟩

end Scan

/-! ### Texts without a cut -/

/-- The scan goes over the text without a cut, from this depth or a greater one, and comes out at the
depth where it went in. -/
def Passes (separator : Char) (depth : Nat) (cs : List Char) : Prop :=
  ∀ (scan : Scan) (piece rest : List Char), scan.Calm → depth ≤ scan.depth →
    ∃ next : Scan, next.Calm ∧ next.depth = scan.depth ∧
      splitFrom separator scan piece (cs ++ rest) =
        splitFrom separator next (cs.reverse ++ piece) rest

section Passes

variable {separator : Char} {depth : Nat} {cs ds : List Char}

/-- A scan passes over nothing. -/
theorem passes_nil : Passes separator depth [] := fun scan _ _ hcalm _ => ⟨scan, hcalm, rfl, rfl⟩

/-- A scan that passes over two texts passes over both in turn. -/
theorem Passes.append (hcs : Passes separator depth cs) (hds : Passes separator depth ds) :
    Passes separator depth (cs ++ ds) := by
  intro scan piece rest hcalm hdepth
  -- The first text is scanned with the second one in front of it, the second from where that ends.
  obtain ⟨middle, hmiddle, hmiddleDepth, hfirst⟩ := hcs scan piece (ds ++ rest) hcalm hdepth
  obtain ⟨last, hlast, hlastDepth, hsecond⟩ :=
    hds middle (cs.reverse ++ piece) rest hmiddle (hmiddleDepth ▸ hdepth)
  refine ⟨last, hlast, hlastDepth.trans hmiddleDepth, ?_⟩
  rw [List.append_assoc, hfirst, hsecond, List.reverse_append, List.append_assoc]

variable (hseparator : isNeutral separator = true)
include hseparator

/-- A scan passes over a neutral character, the separator itself inside brackets only. -/
theorem passes_neutral {c : Char} (hc : isNeutral c = true) (hcut : c = separator → 1 ≤ depth) :
    Passes separator depth [c] := by
  intro scan piece rest hcalm hdepth
  refine ⟨scan.next c, Scan.calm_next_of_neutral hcalm.quote hc,
    by rw [Scan.next_of_neutral hcalm.quote hc], ?_⟩
  -- It is another sign, or the separator inside of brackets.
  have hstays : scan.isCut separator c = false := by
    rw [Scan.isCut_of_neutral hcalm.quote hseparator, Bool.and_eq_false_iff, beq_eq_false_iff_ne,
      beq_eq_false_iff_ne]
    by_cases heq : c = separator
    · left
      have := hcut heq
      omega
    · exact Or.inr heq
  show splitFrom separator scan piece (c :: rest) = _
  rw [splitFrom, hstays]
  rfl

/-- A scan passes over neutral characters without the separator. -/
theorem passes_of_forall (h : ∀ c ∈ cs, isNeutral c = true ∧ c ≠ separator) :
    Passes separator depth cs := by
  induction cs with
  | nil => exact passes_nil
  | cons c rest ih =>
    rw [List.forall_mem_cons] at h
    exact (passes_neutral hseparator h.1.1 fun heq => absurd heq h.1.2).append (ih h.2)

/-- A scan passes over a name. -/
theorem Name.passes (hname : isNameChar separator = false) (name : Name) :
    Passes separator depth name.chars :=
  passes_of_forall hseparator fun c hc =>
    ⟨isNeutral_of_isNameChar (name.valid c hc), ne_of_isNameChar (name.valid c hc) hname⟩

/-- Brackets hide what stands in them. -/
theorem Passes.enclosed {opening closing : Char}
    (hbrackets : (opening, closing) ∈ [('(', ')'), ('[', ']'), ('<', '>')])
    (h : Passes separator 1 cs) : Passes separator depth (opening :: (cs ++ [closing])) := by
  -- The brackets are one of three pairs, all of which count.
  have hopening : opening ∈ ['(', '[', '<'] ∧ isNeutral opening = false := by
    simp only [List.mem_cons, Prod.mk.injEq, List.not_mem_nil, or_false] at hbrackets
    rcases hbrackets with ⟨rfl, -⟩ | ⟨rfl, -⟩ | ⟨rfl, -⟩ <;> exact ⟨by simp, by decide⟩
  have hclosing : closing ∈ [')', ']', '>'] ∧ isNeutral closing = false := by
    simp only [List.mem_cons, Prod.mk.injEq, List.not_mem_nil, or_false] at hbrackets
    rcases hbrackets with ⟨-, rfl⟩ | ⟨-, rfl⟩ | ⟨-, rfl⟩ <;> exact ⟨by simp, by decide⟩
  intro scan piece rest hcalm _
  -- Between the brackets the depth is at least one, whatever it was outside.
  obtain ⟨hinner, hinnerDepth⟩ := Scan.next_of_opening hcalm hopening.1
  obtain ⟨middle, hmiddle, hmiddleDepth, hsplit⟩ :=
    h (scan.next opening) (opening :: piece) (closing :: rest) hinner (by omega)
  obtain ⟨hend, hendDepth⟩ := Scan.next_of_closing hmiddle hclosing.1
  refine ⟨middle.next closing, hend, by omega, ?_⟩
  show splitFrom separator scan piece (opening :: (cs ++ [closing] ++ rest)) = _
  rw [splitFrom, Scan.isCut_of_structural hcalm.quote hseparator hopening.2, List.append_assoc]
  show splitFrom separator (scan.next opening) (opening :: piece) (cs ++ closing :: rest) = _
  rw [hsplit, splitFrom, Scan.isCut_of_structural hmiddle.quote hseparator hclosing.2]
  simp

/-- Cutting undoes joining. -/
theorem splitTopLevel_join {pieces : List (List Char)} (hpieces : pieces ≠ [])
    (h : ∀ piece ∈ pieces, Passes separator 0 piece) :
    splitTopLevel separator ([separator].intercalate pieces) = pieces := by
  -- The induction is on the pieces that follow; every piece begins with a calm scan at depth zero.
  have hfrom (first : List Char) (more : List (List Char)) (scan : Scan) (hcalm : scan.Calm)
      (hdepth : scan.depth = 0) (h : ∀ piece ∈ first :: more, Passes separator 0 piece) :
      splitFrom separator scan [] ([separator].intercalate (first :: more)) = first :: more := by
    induction more generalizing first scan with
    | nil =>
      rw [List.forall_mem_cons] at h
      obtain ⟨next, -, -, hsplit⟩ := h.1 scan [] [] hcalm (Nat.zero_le _)
      rw [List.append_nil] at hsplit
      rw [List.intercalate_singleton, hsplit, splitFrom, List.append_nil, List.reverse_reverse]
    | cons second more ih =>
      rw [List.forall_mem_cons] at h
      obtain ⟨next, hnext, hnextDepth, hsplit⟩ :=
        h.1 scan [] ([separator] ++ [separator].intercalate (second :: more)) hcalm (Nat.zero_le _)
      have hcut : next.isCut separator separator = true := by
        rw [Scan.isCut_of_neutral hnext.quote hseparator, hnextDepth, hdepth]
        simp
      have hdepthNext : (next.next separator).depth = 0 := by
        rw [Scan.next_of_neutral hnext.quote hseparator]
        exact hnextDepth.trans hdepth
      rw [List.intercalate_cons_cons, List.append_assoc, hsplit, List.singleton_append, splitFrom,
        hcut, if_pos rfl, List.append_nil, List.reverse_reverse,
        ih second (next.next separator) (Scan.calm_next_of_neutral hnext.quote hseparator) hdepthNext
          h.2]
  cases pieces with
  | nil => exact absurd rfl hpieces
  | cons first more => exact hfrom first more {} Scan.initial_calm rfl h

end Passes

/-! ### Joining what was cut -/

/-- A character of a piece is one of the joined text. -/
theorem mem_join {separator c : Char} {piece : List Char} {pieces : List (List Char)}
    (hpiece : piece ∈ pieces) (hc : c ∈ piece) : c ∈ [separator].intercalate pieces := by
  induction pieces with
  | nil => cases hpiece
  | cons first more ih =>
    cases more with
    | nil =>
      cases List.mem_singleton.1 hpiece
      rwa [List.intercalate_singleton]
    | cons second more =>
      rw [List.intercalate_cons_cons]
      rcases List.mem_cons.1 hpiece with rfl | hpiece
      · exact List.mem_append_left _ (List.mem_append_left _ hc)
      · exact List.mem_append_right _ (ih hpiece)

/-- A character of the joined text is the separator or one of a piece. -/
theorem of_mem_join {separator c : Char} {pieces : List (List Char)}
    (h : c ∈ [separator].intercalate pieces) : c = separator ∨ ∃ piece ∈ pieces, c ∈ piece := by
  induction pieces with
  | nil => cases h
  | cons first more ih =>
    cases more with
    | nil =>
      rw [List.intercalate_singleton] at h
      exact Or.inr ⟨first, List.mem_singleton_self _, h⟩
    | cons second more =>
      rw [List.intercalate_cons_cons, List.mem_append, List.mem_append, List.mem_singleton] at h
      rcases h with (h | h) | h
      · exact Or.inr ⟨first, List.mem_cons_self, h⟩
      · exact Or.inl h
      · rcases ih h with h | ⟨piece, hpiece, h⟩
        · exact Or.inl h
        · exact Or.inr ⟨piece, List.mem_cons_of_mem _ hpiece, h⟩

/-- Joining what was cut gives the text back. -/
theorem join_splitTopLevel (separator : Char) (cs : List Char) :
    [separator].intercalate (splitTopLevel separator cs) = cs := by
  -- What was read of the current piece stands before the rest of the text.
  have hfrom (scan : Scan) (piece cs : List Char) :
      splitFrom separator scan piece cs ≠ [] ∧
        [separator].intercalate (splitFrom separator scan piece cs) = piece.reverse ++ cs := by
    induction cs generalizing scan piece with
    | nil => exact ⟨List.cons_ne_nil _ _, by simp [splitFrom]⟩
    | cons c rest ih =>
      rw [splitFrom]
      split
      · rename_i hcut
        have hc : c = separator := by
          simp only [Scan.isCut, Bool.and_eq_true, beq_iff_eq] at hcut
          exact hcut.1.1.2
        obtain ⟨hne, hjoin⟩ := ih (scan.next c) []
        obtain ⟨second, more, hmore⟩ := List.exists_cons_of_ne_nil hne
        rw [hmore] at hjoin ⊢
        refine ⟨List.cons_ne_nil _ _, ?_⟩
        rw [List.intercalate_cons_cons, hjoin, hc]
        simp
      · obtain ⟨hne, hjoin⟩ := ih (scan.next c) (c :: piece)
        exact ⟨hne, by rw [hjoin]; simp⟩
  exact (hfrom {} [] cs).2

/-- Without the separator there is one piece. -/
theorem splitTopLevel_of_not_mem {separator : Char} {cs : List Char} (h : separator ∉ cs) :
    splitTopLevel separator cs = [cs] := by
  have hfrom (scan : Scan) (piece cs : List Char) (h : separator ∉ cs) :
      splitFrom separator scan piece cs = [piece.reverse ++ cs] := by
    induction cs generalizing scan piece with
    | nil => simp [splitFrom]
    | cons c rest ih =>
      rw [List.mem_cons, not_or] at h
      have hstays : scan.isCut separator c = false := by
        have hne : (c == separator) = false := beq_eq_false_iff_ne.2 (Ne.symm h.1)
        simp [Scan.isCut, hne]
      rw [splitFrom, hstays, if_neg Bool.false_ne_true, ih _ _ h.2]
      simp
  exact hfrom {} [] cs h

/-! ### Sorting -/

section Sorting

variable {β : Type}

/-- Items in ascending order of their texts. -/
def sortByText (text : β → List Char) (items : List β) : List β :=
  items.mergeSort fun a b => !decide (text b < text a)

variable (text : β → List Char) (items : List β)

/-- Sorting the texts of items is sorting the items by their texts. -/
theorem sortPieces_map : sortPieces (items.map text) = (sortByText text items).map text := by
  rw [sortPieces, sortByText, List.map_mergeSort]
  exact fun _ _ _ _ => rfl

/-- Sorting by text keeps all items. -/
theorem sortByText_perm : (sortByText text items).Perm items :=
  List.mergeSort_perm items _

/-- What is sorted by text is in the order of the texts. -/
theorem sortByText_sorted : (sortByText text items).Pairwise fun a b => ¬ text b < text a := by
  let le (a b : β) : Bool := !decide (text b < text a)
  have hle (a b : β) : le a b = true ↔ ¬ text b < text a := by simp [le]
  have htrans (a b c : β) (hab : le a b = true) (hbc : le b c = true) : le a c = true :=
    (hle a c).2 (List.le_trans ((hle a b).1 hab) ((hle b c).1 hbc))
  have htotal (a b : β) : (le a b || le b a) = true := by
    rw [Bool.or_eq_true, hle, hle]
    exact List.le_total (text a) (text b)
  exact (List.pairwise_mergeSort htrans htotal items).imp fun {a b} => (hle a b).1

/-- Two items change places exactly if the second one's text is less. -/
theorem sortByText_pair (a b : β) :
    sortByText text [a, b] = if text b < text a then [b, a] else [a, b] := by
  by_cases h : text b < text a <;>
    simp [sortByText, List.mergeSort, List.MergeSort.Internal.splitInTwo, h]

variable {text} {items}

/-- What is in order stays as it is. -/
theorem sortByText_eq_self (h : items.Pairwise fun a b => ¬ text b < text a) :
    sortByText text items = items :=
  List.mergeSort_of_pairwise (h.imp fun h => by simpa using h)

/-- Where a text belongs to one item only, the order does not depend on the order before. -/
theorem sortByText_eq_of_perm {others : List β} (hperm : items.Perm others)
    (htext : ∀ a ∈ items, ∀ b ∈ items, text a = text b → a = b) :
    sortByText text items = sortByText text others := by
  have hboth : (sortByText text items).Perm (sortByText text others) :=
    ((sortByText_perm text items).trans hperm).trans (sortByText_perm text others).symm
  -- Two sorted permutations are equal, because items with one text are.
  refine hboth.eq_of_pairwise ?_ (sortByText_sorted text items) (sortByText_sorted text others)
  intro a b ha hb hab hba
  exact htext a ((sortByText_perm text items).mem_iff.1 ha) b
    (hperm.mem_iff.2 ((sortByText_perm text others).mem_iff.1 hb)) (List.le_antisymm hab hba)

end Sorting

/-- Sorting the members of a joined text sorts the pieces. -/
theorem sortMembers_join {separator : Char} (hseparator : isNeutral separator = true)
    {pieces : List (List Char)} (hpieces : pieces ≠ [])
    (h : ∀ piece ∈ pieces, Passes separator 0 piece ∧ piece ≠ []) :
    sortMembers separator ([separator].intercalate pieces) =
      [separator].intercalate (sortPieces pieces) := by
  have hsplit := splitTopLevel_join hseparator hpieces fun piece hpiece => (h piece hpiece).1
  have hfilter : pieces.filter (!·.isEmpty) = pieces :=
    List.filter_eq_self.2 fun piece hpiece => by simpa using (h piece hpiece).2
  rw [sortMembers, hsplit, hfilter]
  split
  · -- A single piece stays as it is.
    rename_i hshort
    obtain ⟨piece, rfl⟩ := List.length_eq_one_iff.1
      (Nat.le_antisymm (Nat.le_of_lt_succ hshort) (List.length_pos_iff.2 hpieces))
    rw [sortPieces, List.mergeSort_singleton]
  · rfl

/-- Without the separator there is nothing to sort. -/
theorem sortMembers_of_not_mem {separator : Char} {cs : List Char} (h : separator ∉ cs) :
    sortMembers separator cs = cs := by
  rw [sortMembers, splitTopLevel_of_not_mem h]
  refine if_pos (Nat.lt_of_le_of_lt (List.length_filter_le _ _) ?_)
  exact Nat.lt_succ_self 1

/-- Looking for a separator before sorting saves work and nothing else. -/
theorem sortUnionsAndIntersections_eq (cs : List Char) :
    sortUnionsAndIntersections cs =
      ['|'].intercalate ((splitTopLevel '|' (sortMembers '|' cs)).map (sortMembers '&')) := by
  -- Both tests for a sign only save work: without the sign, sorting changes nothing.
  have hunion : (if cs.contains '|' then sortMembers '|' cs else cs) = sortMembers '|' cs := by
    split
    · rfl
    · rename_i hnone
      rw [sortMembers_of_not_mem fun hmem => hnone (List.contains_iff_mem.2 hmem)]
  rw [sortUnionsAndIntersections, hunion]
  split
  · rfl
  · rename_i hnone
    have hstays : (splitTopLevel '|' (sortMembers '|' cs)).map (sortMembers '&') =
        splitTopLevel '|' (sortMembers '|' cs) := by
      refine (List.map_congr_left fun piece hpiece => ?_).trans (List.map_id _)
      refine sortMembers_of_not_mem fun hmem => hnone (List.contains_iff_mem.2 ?_)
      -- A character of a piece is a character of the text that was cut.
      rw [← join_splitTopLevel '|' (sortMembers '|' cs)]
      exact mem_join hpiece hmem
    rw [hstays, join_splitTopLevel]

/-- The canonical text, on characters. -/
theorem canonical_ofList (cs : List Char) :
    canonical (String.ofList cs) = String.ofList (canonicalChars cs) := by
  rw [canonical, String.toList_ofList]

end ChangeLens.TypeText
