import ChangeLens.Proofs.Respelling
import ChangeLens.Proofs.Substitution

/-!
# `ChangeLens.Proofs.AngleNesting`: what a spelling rule does to nested brackets

A rule of spelling looks for a word and `<` and reads an argument of bounded nesting behind it. To
say which of the brackets of a text it takes away, the text is cut at its angle brackets: a `Nested`
is such a cut, and every text has at most one (`Nested.chars_inj`). `Argument` is what a rule can
read: a name, and behind it groups without inner brackets.

`Rewrites name body` relates a nested text to what one pass makes of it. Each group either stays,
with its content rewritten, or is one whose word is `name` and whose content `body` accepts; then the
replacement takes its place and is not looked at again. `Spells` ties a rule to a name and a body,
and under it the relation is the pass (`Rewrites.substitute`, `exists_rewrites`). Both rules of
spelling have such a body (`array_spells`, `partialPick_spells`), so `Pass` is one round of both.
-/

set_option autoImplicit false

namespace ChangeLens.TypeText

open ChangeLens.Text

/-! ### Nested texts -/

/-- The first bracket that opens in a text is found where the piece before it ends. -/
theorem opening_inj {a b x y : List Char} (ha : '<' ∉ a) (hb : '<' ∉ b)
    (h : a ++ '<' :: x = b ++ '<' :: y) : a = b ∧ x = y := by
  rcases append_eq_append_cons h with ⟨z, hz, -⟩ | ⟨z, hz, hrest⟩
  · exact absurd (mem_of_eq_append hz) ha
  · cases z with
    | nil => exact ⟨by rw [hz, List.append_nil], (List.cons.inj hrest).2⟩
    | cons d z =>
      obtain ⟨rfl, -⟩ := List.cons.inj hrest
      exact absurd (mem_of_eq_append hz) hb

/-- A text without angle brackets. -/
structure Piece where
  /-- Its characters. -/
  chars : List Char
  /-- No bracket opens. -/
  opening : '<' ∉ chars
  /-- No bracket closes. -/
  closing : '>' ∉ chars

namespace Piece

/-- A piece is its characters. -/
theorem ext {a b : Piece} (h : a.chars = b.chars) : a = b := by
  cases a
  cases b
  cases h
  rfl

/-- The empty piece. -/
def nil : Piece where
  chars := []
  opening := List.not_mem_nil
  closing := List.not_mem_nil

/-- Two pieces, one behind the other. -/
def append (a b : Piece) : Piece where
  chars := a.chars ++ b.chars
  opening := by simpa using ⟨a.opening, b.opening⟩
  closing := by simpa using ⟨a.closing, b.closing⟩

instance : Append Piece := ⟨append⟩

/-- The empty piece has no characters. -/
@[simp]
theorem chars_nil : nil.chars = [] := rfl

/-- Pieces one behind the other have the characters of both. -/
@[simp]
theorem chars_append (a b : Piece) : (a ++ b).chars = a.chars ++ b.chars := rfl

/-- Nothing behind a piece is that piece. -/
@[simp]
theorem append_nil (a : Piece) : a ++ nil = a := ext (List.append_nil _)

/-- It does not matter which pieces are put together first. -/
theorem append_assoc (a b c : Piece) : a ++ b ++ c = a ++ (b ++ c) := ext (List.append_assoc ..)

/-- A word can start behind the piece. -/
def AtBoundary (piece : Piece) : Prop :=
  piece.chars.getLast?.any isWord = false

/-- What stands before the piece does not matter once the piece has a character. -/
theorem AtBoundary.prepend {b : Piece} (hb : b.AtBoundary) (hne : b.chars ≠ []) (a : Piece) :
    (a ++ b).AtBoundary := by
  rwa [AtBoundary, chars_append, List.getLast?_append_of_ne_nil _ hne]

end Piece

/-- A name as a piece. -/
def Name.piece (name : Name) : Piece where
  chars := name.chars
  opening := name.not_mem (by decide)
  closing := name.not_mem (by decide)

/-- The brackets of an array as a piece. -/
def bracketsPiece : Piece where
  chars := ['[', ']']
  opening := by decide
  closing := by decide

@[inherit_doc bracketsPiece]
def commaPiece : Piece where
  chars := [',']
  opening := by decide
  closing := by decide

/-- A text cut at its angle brackets. -/
inductive Nested where
  /-- No bracket. -/
  | word (piece : Piece)
  /-- The text `before<inner>rest`. -/
  | group (before : Piece) (inner rest : Nested)

namespace Nested

/-- The text itself. -/
def chars : Nested → List Char
  | word piece => piece.chars
  | group before inner rest => before.chars ++ '<' :: (inner.chars ++ '>' :: rest.chars)

/-- A piece in front of a text. -/
def prepend (piece : Piece) : Nested → Nested
  | word other => word (piece ++ other)
  | group before inner rest => group (piece ++ before) inner rest

/-- Two texts, one behind the other. -/
def append : Nested → Nested → Nested
  | word piece, g => prepend piece g
  | group before inner rest, g => group before inner (append rest g)

instance : Append Nested := ⟨append⟩

/-- What follows a text without groups has that text before it. -/
@[simp]
theorem word_append (piece : Piece) (g : Nested) : word piece ++ g = prepend piece g := rfl

/-- What follows a group is behind all that followed it before. -/
@[simp]
theorem group_append (before : Piece) (inner rest g : Nested) :
    group before inner rest ++ g = group before inner (rest ++ g) := rfl

/-- Nothing before a text is that text. -/
@[simp]
theorem prepend_nil (f : Nested) : prepend .nil f = f := by
  cases f <;> rfl

/-- Two pieces before a text are one piece before it. -/
theorem prepend_prepend (a b : Piece) (f : Nested) :
    prepend a (prepend b f) = prepend (a ++ b) f := by
  cases f <;> simp only [prepend, Piece.append_assoc]

/-- Nothing behind a text is that text. -/
@[simp]
theorem append_nil (f : Nested) : f ++ word .nil = f := by
  induction f with
  | word piece => rw [word_append, prepend, Piece.append_nil]
  | group before inner rest _ ih => rw [group_append, ih]

/-- A piece stands before two texts as before the first one. -/
theorem prepend_append (piece : Piece) (f g : Nested) :
    prepend piece f ++ g = prepend piece (f ++ g) := by
  cases f with
  | word other => exact (prepend_prepend piece other g).symm
  | group before inner rest => rfl

/-- It does not matter which texts are put together first. -/
theorem append_assoc (f g h : Nested) : f ++ g ++ h = f ++ (g ++ h) := by
  induction f with
  | word piece => rw [word_append, word_append, prepend_append]
  | group before inner rest _ ih => rw [group_append, group_append, ih, group_append]

/-- The characters of a piece before a text. -/
@[simp]
theorem chars_prepend (piece : Piece) (f : Nested) :
    (prepend piece f).chars = piece.chars ++ f.chars := by
  cases f <;> simp [prepend, chars]

/-- The characters of two texts one behind the other. -/
@[simp]
theorem chars_append (f g : Nested) : (f ++ g).chars = f.chars ++ g.chars := by
  induction f with
  | word piece => rw [word_append, chars_prepend, chars]
  | group before inner rest _ ih => simp [chars, ih]

/-- A nested text is balanced. -/
theorem balanced (f : Nested) : Balanced f.chars := by
  induction f with
  | word piece => exact balanced_of_not_mem piece.opening piece.closing
  | group before inner rest hinner hrest =>
    have hbefore : Balanced before.chars := balanced_of_not_mem before.opening before.closing
    have hchars : (group before inner rest).chars =
        before.chars ++ (('<' :: (inner.chars ++ ['>'])) ++ rest.chars) := by simp [chars]
    rw [hchars]
    exact hbefore.append (hinner.enclosed.append hrest)

/-- A text is cut in one way. -/
theorem chars_inj {f g : Nested} (h : f.chars = g.chars) : f = g := by
  induction f generalizing g with
  | word a =>
    cases g with
    | word b => exact congrArg word (Piece.ext h)
    | group before inner rest => exact absurd (mem_of_eq_append h) a.opening
  | group before inner rest hinner hrest =>
    cases g with
    | word b => exact absurd (mem_of_eq_append h.symm) b.opening
    | group before' inner' rest' =>
      obtain ⟨hb, hbehind⟩ := opening_inj before.opening before'.opening h
      obtain ⟨hi, hr⟩ := inner.balanced.closing_inj inner'.balanced hbehind
      rw [Piece.ext hb, hinner hi, hrest hr]

/-! ### What a rule reads -/

/-- Groups without inner brackets, one behind the other. -/
inductive Groups : Nested → Prop
  | nil : Groups (word .nil)
  | cons (inner : Piece) {rest : Nested} : Groups rest → Groups (group .nil (word inner) rest)

/-- A name without the characters of `stop`, and groups behind it. -/
inductive Argument (stop : List Char) : Nested → Prop
  | intro (name : Piece) {groups : Nested} (hname : name.chars ≠ [])
    (hstop : ∀ c ∈ name.chars, c ∉ stop) (hgroups : Groups groups) :
    Argument stop (prepend name groups)

/-- A group without brackets inside is read as a whole, and then the groups behind it. -/
theorem groupsLength_group (fuel : Nat) (inner : Piece) (rest : List Char) :
    groupsLength (fuel + 1) ('<' :: (inner.chars ++ '>' :: rest)) =
      inner.chars.length + 2 + groupsLength fuel rest := by
  have hinner : (inner.chars ++ '>' :: rest).takeWhile (fun c => c != '<' && c != '>') =
      inner.chars := by
    rw [List.takeWhile_append_of_pos]
    · simp
    · intro c hc
      have hopening : c ≠ '<' := fun heq => inner.opening (heq ▸ hc)
      have hclosing : c ≠ '>' := fun heq => inner.closing (heq ▸ hc)
      simp [hopening, hclosing]
  rw [groupsLength]
  simp only [hinner, List.drop_left]

/-- Where no bracket opens, there is no group. -/
theorem groupsLength_of_ne {c : Char} (hc : c ≠ '<') (fuel : Nat) (rest : List Char) :
    groupsLength fuel (c :: rest) = 0 := by
  cases fuel with
  | zero => rfl
  | succ fuel =>
    rw [groupsLength]
    intro other heq
    exact hc (List.cons.inj heq).1

/-- Groups are read to their end. -/
theorem Groups.groupsLength_eq {f : Nested} (h : Groups f) {c : Char} (hc : c ≠ '<')
    (rest : List Char) (fuel : Nat) (hfuel : f.chars.length ≤ fuel) :
    groupsLength fuel (f.chars ++ c :: rest) = f.chars.length := by
  induction h generalizing fuel with
  | nil => exact groupsLength_of_ne hc fuel rest
  | @cons inner tail _ ih =>
    have hchars : (group .nil (word inner) tail).chars =
        '<' :: (inner.chars ++ '>' :: tail.chars) := rfl
    rw [hchars] at hfuel ⊢
    simp only [List.length_cons, List.length_append] at hfuel
    obtain ⟨fuel, rfl⟩ : ∃ n, fuel = n + 1 := ⟨fuel - 1, by omega⟩
    rw [List.cons_append, List.append_assoc, List.cons_append, groupsLength_group,
      ih fuel (by omega)]
    simp only [List.length_cons, List.length_append]
    omega

/-- What is read as groups are groups. -/
theorem exists_groups (fuel : Nat) (cs : List Char) :
    ∃ f, Groups f ∧ f.chars = cs.take (groupsLength fuel cs) := by
  fun_induction groupsLength fuel cs with
  | case2 fuel rest inner after hafter ih =>
    obtain ⟨f, hf, hchars⟩ := ih
    have hmem (c : Char) (hc : c ∈ inner) : c ≠ '<' ∧ c ≠ '>' := by
      simpa using List.mem_takeWhile_imp hc
    let piece : Piece :=
      ⟨inner, fun hc => (hmem _ hc).1 rfl, fun hc => (hmem _ hc).2 rfl⟩
    refine ⟨group .nil (word piece) f, .cons piece hf, ?_⟩
    -- The group read is what stands between the first two brackets.
    have hrest : '<' :: rest = ('<' :: (inner ++ ['>'])) ++ after := by
      have hdrop : inner ++ rest.drop inner.length = rest :=
        List.prefix_iff_eq_append.1 (List.takeWhile_prefix _)
      rw [← hdrop, hafter]
      simp
    have hlength : inner.length + 2 = ('<' :: (inner ++ ['>'])).length := by simp
    rw [hrest, hlength, List.take_append, Nat.add_sub_cancel_left, List.take_of_length_le (by omega),
      ← hchars]
    simp [chars, piece]
  | _ => exact ⟨word .nil, .nil, by simp [chars]⟩

/-- An argument is read to its end, if the character behind it ends it. -/
theorem Argument.argument?_eq {stop : List Char} {f : Nested} (h : Argument stop f) {c : Char}
    (hc : c ≠ '<') (hend : c = '>' ∨ c ∈ stop) (rest : List Char) :
    argument? stop (f.chars ++ c :: rest) = some (f.chars, c :: rest) := by
  obtain ⟨name, hname, hstop, hgroups⟩ := h
  rename_i groups
  -- The name ends where the first group opens, or at `c`.
  have htake : (name.chars ++ (groups.chars ++ c :: rest)).takeWhile
      (fun c => c != '<' && c != '>' && !stop.contains c) = name.chars := by
    rw [List.takeWhile_append_of_pos]
    · suffices hnone : (groups.chars ++ c :: rest).takeWhile
          (fun c => c != '<' && c != '>' && !stop.contains c) = [] by rw [hnone, List.append_nil]
      cases hgroups with
      | nil => exact List.takeWhile_cons_of_neg (by rcases hend with rfl | hmem <;> simp [*])
      | cons inner _ => exact List.takeWhile_cons_of_neg (by simp)
    · intro d hd
      have hopening : d ≠ '<' := fun heq => name.opening (heq ▸ hd)
      have hclosing : d ≠ '>' := fun heq => name.closing (heq ▸ hd)
      simp [hopening, hclosing, hstop d hd]
  have hgroupsLength := hgroups.groupsLength_eq hc rest (groups.chars ++ c :: rest).length (by simp)
  rw [chars_prepend, List.append_assoc, argument?]
  simp only [htake, List.isEmpty_iff, hname, if_false, List.drop_left, hgroupsLength]
  simp

/-- What is read as an argument is one. -/
theorem exists_argument {stop cs element rest : List Char}
    (h : argument? stop cs = some (element, rest)) :
    ∃ f, Argument stop f ∧ f.chars = element ∧ cs = f.chars ++ rest := by
  obtain ⟨hcs, -⟩ := argument?_eq_some h
  let name := cs.takeWhile fun c => c != '<' && c != '>' && !stop.contains c
  have hname (c : Char) (hc : c ∈ name) : (c ≠ '<' ∧ c ≠ '>') ∧ c ∉ stop := by
    simpa using List.mem_takeWhile_imp hc
  rw [argument?] at h
  split at h
  · cases h
  · rename_i hne
    simp only [Option.some.injEq, Prod.mk.injEq] at h
    -- The argument is the name in front and the groups that were read behind it.
    obtain ⟨groups, hgroups, hchars⟩ := exists_groups (cs.drop name.length).length (cs.drop name.length)
    let piece : Piece :=
      ⟨name, fun hc => (hname _ hc).1.1 rfl, fun hc => (hname _ hc).1.2 rfl⟩
    have helement : (prepend piece groups).chars = element := by
      rw [chars_prepend, hchars]
      exact h.1
    refine ⟨_, .intro piece (fun hnil => hne (List.isEmpty_iff.2 hnil))
      (fun c hc => (hname c hc).2) hgroups, helement, ?_⟩
    rw [helement, hcs]

/-! ### One pass -/

/-- What one pass makes of a text that is cut at its brackets. A group stays, with its content
rewritten, or its word is `name` and `body` puts another text in place of its content. -/
inductive Rewrites (name : Name) (body : Nested → Nested → Prop) : Nested → Nested → Prop
  | copy (piece : Piece) : Rewrites name body (word piece) (word piece)
  | keep {before : Piece} {inner inner' rest rest' : Nested}
    (hkeep : ∀ u put, before = u ++ name.piece → u.AtBoundary → ¬ body inner put)
    (hinner : Rewrites name body inner inner') (hrest : Rewrites name body rest rest') :
    Rewrites name body (group before inner rest) (group before inner' rest')
  | replace {u : Piece} {inner put rest rest' : Nested} (hu : u.AtBoundary) (hput : body inner put)
    (hrest : Rewrites name body rest rest') :
    Rewrites name body (group (u ++ name.piece) inner rest) (prepend u (put ++ rest'))

/-- Every text can be rewritten. -/
theorem exists_rewrites (name : Name) (body : Nested → Nested → Prop) (f : Nested) :
    ∃ g, Rewrites name body f g := by
  induction f with
  | word piece => exact ⟨_, .copy piece⟩
  | group before inner rest hinner hrest =>
    obtain ⟨inner', hinner⟩ := hinner
    obtain ⟨rest', hrest⟩ := hrest
    by_cases hmatch : ∃ u put, before = u ++ name.piece ∧ u.AtBoundary ∧ body inner put
    · obtain ⟨u, put, rfl, hu, hput⟩ := hmatch
      exact ⟨_, .replace hu hput hrest⟩
    · refine ⟨_, .keep (fun u put hbefore hu hput => hmatch ?_) hinner hrest⟩
      exact ⟨u, put, hbefore, hu, hput⟩

/-- A rule that looks for a word and `<` and replaces the group where `body` accepts its content. -/
structure Spells (rule : Rule) (name : Name) (body : Nested → Nested → Prop) : Prop where
  /-- It looks for the word, at the start of a word. -/
  start : ∀ before cs found, rule before cs = some found →
    before.any isWord = false ∧ ∃ rest, cs = name.chars ++ '<' :: rest
  /-- It takes away the word and the group, where the content is accepted. -/
  hit : ∀ before inner put rest, before.any isWord = false → body inner put →
    rule before (name.chars ++ '<' :: (inner.chars ++ '>' :: rest)) =
      some (name.chars.length + inner.chars.length + 2, put.chars)
  /-- Elsewhere it does nothing. -/
  miss : ∀ before inner rest, (∀ put, ¬ body inner put) →
    rule before (name.chars ++ '<' :: (inner.chars ++ '>' :: rest)) = none

section Passing

variable {rule : Rule} {name : Name} {body : Nested → Nested → Prop}

/-- A rule matches nowhere but at the start of a word. -/
theorem Spells.eq_none (h : Spells rule name body) {c : Char} (hc : isNameChar c = false)
    (before : Option Char) (rest : List Char) : rule before (c :: rest) = none := by
  refine Option.eq_none_iff_forall_ne_some.2 fun found hfound => ?_
  obtain ⟨-, other, hcons⟩ := h.start before _ found hfound
  obtain ⟨d, ds, hname⟩ := List.exists_cons_of_ne_nil name.nonempty
  rw [hname] at hcons
  refine name.not_mem hc ?_
  rw [hname, (List.cons.inj hcons).1]
  exact List.mem_cons_self

/-- A bracket is copied. -/
theorem Spells.substituteFrom_cons (h : Spells rule name body) {c : Char} (hc : isNameChar c = false)
    (before : Option Char) (rest : List Char) :
    substituteFrom rule before 0 (c :: rest) = c :: substituteFrom rule (some c) 0 rest := by
  rw [substituteFrom, h.eq_none hc]

/-- What the rule reaches behind a text: nothing, or the bracket that closes it. -/
def Closing (tail : List Char) : Prop :=
  ∀ c, tail.head? = some c → c = '>'

/-- At a place where a group closes or the text ends, it does not matter what stood before. -/
theorem Spells.substituteFrom_closing (h : Spells rule name body) {tail : List Char}
    (htail : Closing tail) (before before' : Option Char) :
    substituteFrom rule before 0 tail = substituteFrom rule before' 0 tail := by
  cases tail with
  | nil => rfl
  | cons c rest =>
    obtain rfl := htail c rfl
    rw [h.substituteFrom_cons (by decide), h.substituteFrom_cons (by decide)]

/-- No match starts in the last piece before a closing bracket. -/
theorem Spells.substituteFrom_piece (h : Spells rule name body) (piece : Piece) {tail : List Char}
    (htail : Closing tail) (before : Option Char) :
    substituteFrom rule before 0 (piece.chars ++ tail) =
      piece.chars ++ substituteFrom rule none 0 tail := by
  rw [substituteFrom_copy, h.substituteFrom_closing htail _ none]
  intro a b hab hb
  refine Option.eq_none_iff_forall_ne_some.2 fun found hfound => ?_
  obtain ⟨-, rest, hmatch⟩ := h.start _ _ found hfound
  -- The bracket of the match would stand in the piece, or be the closing one.
  rcases append_eq_append_cons hmatch with ⟨z, hz, -⟩ | ⟨z, hz, hrest⟩
  · exact piece.opening (hab ▸ List.mem_append_right a (mem_of_eq_append hz))
  · cases z with
    | nil => exact absurd (htail '<' (by rw [hrest]; rfl)) (by decide)
    | cons d z =>
      obtain rfl := htail d (by rw [hrest]; rfl)
      exact name.not_mem (by decide) (mem_of_eq_append hz)

/-- A match that starts in a piece before a bracket takes the piece to its end. -/
theorem Spells.eq_name (h : Spells rule name body) {before : Option Char} {b rest : List Char}
    {found : Nat × List Char} (hb : '<' ∉ b) (hfound : rule before (b ++ '<' :: rest) = some found) :
    before.any isWord = false ∧ b = name.chars := by
  obtain ⟨hbefore, other, hmatch⟩ := h.start _ _ found hfound
  exact ⟨hbefore, (opening_inj hb (name.not_mem (by decide)) hmatch).1⟩

/-- A piece before a bracket is copied if the rule does nothing at the word in front of the bracket. -/
theorem Spells.substituteFrom_before (h : Spells rule name body) (piece : Piece) (before : Option Char)
    (rest : List Char) (hnone : ∀ u, piece.chars = u ++ name.chars →
      rule (u.getLast?.or before) (name.chars ++ '<' :: rest) ≠ none →
      (u.getLast?.or before).any isWord ≠ false) :
    substituteFrom rule before 0 (piece.chars ++ '<' :: rest) =
      piece.chars ++ '<' :: substituteFrom rule (some '<') 0 rest := by
  rw [substituteFrom_copy, h.substituteFrom_cons (by decide)]
  intro a b hab hb
  refine Option.eq_none_iff_forall_ne_some.2 fun found hfound => ?_
  have hpiece : '<' ∉ b := fun hmem => piece.opening (hab ▸ List.mem_append_right a hmem)
  obtain ⟨hbefore, rfl⟩ := h.eq_name hpiece hfound
  exact hnone a hab (by rw [hfound]; exact Option.some_ne_none _) hbefore

/-- Where no word character stood before a text, one ends it exactly if it is its own. -/
theorem any_getLast?_or {u : List Char} {before : Option Char} (hbefore : before.any isWord = false) :
    (u.getLast?.or before).any isWord = u.getLast?.any isWord := by
  cases u.getLast? with
  | none => exact hbefore
  | some c => rfl

/-- The relation is the pass. -/
theorem Rewrites.substituteFrom {f g : Nested} (hrewrites : Rewrites name body f g)
    (h : Spells rule name body) {before : Option Char} (hbefore : before.any isWord = false)
    {tail : List Char} (htail : Closing tail) :
    Text.substituteFrom rule before 0 (f.chars ++ tail) =
      g.chars ++ Text.substituteFrom rule none 0 tail := by
  -- Behind a bracket a word can start, so what follows a bracket is again a text of this kind.
  have hopening : (some '<').any isWord = false := by decide
  have hclosing : (some '>').any isWord = false := by decide
  have hcontent (rest : List Char) : Closing ('>' :: rest) := fun c hc => by
    rw [List.head?_cons, Option.some.injEq] at hc
    exact hc.symm
  induction hrewrites generalizing before tail with
  | copy piece => exact h.substituteFrom_piece piece htail before
  | @keep piece inner inner' rest rest' hkeep _ _ hinner hrest =>
    have hchars : (group piece inner rest).chars ++ tail =
        piece.chars ++ '<' :: (inner.chars ++ '>' :: (rest.chars ++ tail)) := by simp [chars]
    rw [hchars, h.substituteFrom_before, hinner hopening (hcontent _),
      h.substituteFrom_cons (by decide), hrest hclosing htail]
    · simp [chars]
    · intro u hu hsome hword
      rw [any_getLast?_or hbefore] at hword
      let start : Piece :=
        ⟨u, fun hmem => piece.opening (hu ▸ List.mem_append_left _ hmem),
          fun hmem => piece.closing (hu ▸ List.mem_append_left _ hmem)⟩
      exact hsome (h.miss _ inner _ fun put => hkeep start put (Piece.ext hu) hword)
  | @replace u inner put rest rest' hu hput _ hrest =>
    have hchars : (group (u ++ name.piece) inner rest).chars ++ tail =
        u.chars ++ (name.chars ++ '<' :: (inner.chars ++ '>' :: (rest.chars ++ tail))) := by
      simp [chars, Name.piece]
    have hhit := h.hit (u.chars.getLast?.or before) inner put (rest.chars ++ tail)
      (by rw [any_getLast?_or hbefore]; exact hu) hput
    obtain ⟨d, ds, hname⟩ := List.exists_cons_of_ne_nil name.nonempty
    have hpass : Text.substituteFrom rule (u.chars.getLast?.or before) 0
        (name.chars ++ '<' :: (inner.chars ++ '>' :: (rest.chars ++ tail))) =
        put.chars ++ Text.substituteFrom rule (some '>') 0 (rest.chars ++ tail) := by
      have hskip := substituteFrom_skip rule (some d) (ds ++ '<' :: inner.chars) (rest.chars ++ tail) '>'
      rw [hname] at hhit ⊢
      rw [List.cons_append, Text.substituteFrom, ← List.cons_append, hhit]
      simpa [Nat.add_assoc, Nat.add_comm, Nat.add_left_comm] using hskip
    rw [hchars, substituteFrom_copy, hpass, hrest hclosing htail]
    · simp
    · -- A match that starts earlier would be longer than the word.
      intro a b hab hb
      refine Option.eq_none_iff_forall_ne_some.2 fun found hfound => hb ?_
      rw [← List.append_assoc] at hfound
      have hpiece : '<' ∉ b ++ name.chars := by
        rw [List.mem_append, not_or]
        exact ⟨fun hmem => u.opening (hab ▸ List.mem_append_right a hmem), name.not_mem (by decide)⟩
      exact List.append_left_eq_self.1 (h.eq_name hpiece hfound).2

/-- The pass that runs does what its description says. -/
theorem Rewrites.substitute {f g : Nested} (hrewrites : Rewrites name body f g)
    (h : Spells rule name body) : Text.substitute rule f.chars = g.chars := by
  have hnil : Closing [] := fun c hc => by cases hc
  have hpass : Text.substituteFrom rule none 0 (f.chars ++ []) = g.chars ++ [] :=
    hrewrites.substituteFrom h rfl hnil
  rwa [List.append_nil, List.append_nil] at hpass

end Passing

/-! ### The two rules -/

/-- The text `f[]`. -/
def bracketed (f : Nested) : Nested :=
  f ++ word bracketsPiece

/-- How `f[]` is written. -/
theorem chars_bracketed (f : Nested) : f.bracketed.chars = f.chars ++ ['[', ']'] :=
  chars_append f _

/-- The content of an `Array<…>` that is replaced, and the text put in place of the group. -/
def arrayBody (inner put : Nested) : Prop :=
  Argument [] inner ∧ put = inner.bracketed

/-- The first rule takes `Array<f>` to `f[]` where it can read `f`. -/
theorem array_spells : Spells arrayRule arrayName arrayBody where
  start before cs found hfound := by
    simp only [arrayRule, Option.bind_eq_bind, Option.bind_eq_some_iff] at hfound
    obtain ⟨rest, hword, -⟩ := hfound
    obtain ⟨hbefore, rfl⟩ := afterWord?_eq_some hword
    exact ⟨hbefore, rest, rfl⟩
  hit before inner put rest hbefore hput := by
    obtain ⟨hargument, rfl⟩ := hput
    have hword : afterWord? "Array<".toList before
        (arrayName.chars ++ '<' :: (inner.chars ++ '>' :: rest)) = some (inner.chars ++ '>' :: rest) := by
      simp [afterWord?, arrayName, Name.ofText, hbefore]
    rw [arrayRule, hword]
    simp only [Option.bind_eq_bind, Option.bind_some,
      hargument.argument?_eq (by decide) (Or.inl rfl)]
    simp [chars_bracketed]
    omega
  miss before inner rest hnone := by
    refine Option.eq_none_iff_forall_ne_some.2 fun found hfound => ?_
    simp only [arrayRule, Option.bind_eq_bind, Option.bind_eq_some_iff, Prod.exists] at hfound
    obtain ⟨text, hword, element, following, hargument, hmatch⟩ := hfound
    obtain ⟨-, htext⟩ := afterWord?_eq_some hword
    have hname : arrayName.chars ++ '<' :: (inner.chars ++ '>' :: rest) =
        "Array<".toList ++ (inner.chars ++ '>' :: rest) := rfl
    have htext : inner.chars ++ '>' :: rest = text := List.append_cancel_left (hname.symm.trans htext)
    obtain ⟨f, hf, -, rfl⟩ := exists_argument hargument
    split at hmatch
    · -- What was read ends where the group closes, so it is the content.
      rename_i after
      cases chars_inj (inner.balanced.closing_inj f.balanced htext).1
      exact hnone _ ⟨hf, rfl⟩
    · cases hmatch

/-- The content of a `Partial<…>` that is replaced, and the text put in place of the group. -/
def pickBody (inner put : Nested) : Prop :=
  ∃ whole keys, Argument [','] whole ∧ Argument [] keys ∧
    inner = group pickName.piece (whole ++ prepend commaPiece keys) (word .nil) ∧
    put = group pickName.piece (group partialName.piece whole (prepend commaPiece keys)) (word .nil)

/-- The second rule exchanges the two words where it can read both arguments. -/
theorem partialPick_spells : Spells partialPickRule partialName pickBody where
  start before cs found hfound := by
    simp only [partialPickRule, Option.bind_eq_bind, Option.bind_eq_some_iff] at hfound
    obtain ⟨rest, hword, -⟩ := hfound
    obtain ⟨hbefore, rfl⟩ := afterWord?_eq_some hword
    exact ⟨hbefore, pickName.chars ++ '<' :: rest, rfl⟩
  hit before inner put rest hbefore hput := by
    obtain ⟨whole, keys, hwhole, hkeys, rfl, rfl⟩ := hput
    have hword : afterWord? "Partial<Pick<".toList before
        (partialName.chars ++ '<' :: ((group pickName.piece (whole ++ prepend commaPiece keys)
          (word .nil)).chars ++ '>' :: rest)) =
        some (whole.chars ++ ',' :: (keys.chars ++ '>' :: '>' :: rest)) := by
      simp [afterWord?, partialName, pickName, Name.ofText, Name.piece, chars, commaPiece, hbefore]
    rw [partialPickRule, hword]
    simp only [Option.bind_eq_bind, Option.bind_some,
      hwhole.argument?_eq (by decide) (Or.inr List.mem_cons_self),
      hkeys.argument?_eq (by decide) (Or.inl rfl)]
    simp [chars, commaPiece, pickName, partialName, Name.ofText, Name.piece]
    omega
  miss before inner rest hnone := by
    refine Option.eq_none_iff_forall_ne_some.2 fun found hfound => ?_
    simp only [partialPickRule, Option.bind_eq_bind, Option.bind_eq_some_iff, Prod.exists] at hfound
    obtain ⟨text, hword, first, following, hfirst, hmatch⟩ := hfound
    obtain ⟨-, htext⟩ := afterWord?_eq_some hword
    obtain ⟨whole, hwhole, -, rfl⟩ := exists_argument hfirst
    split at hmatch
    · rename_i text
      simp only [Option.bind_eq_some_iff, Prod.exists] at hmatch
      obtain ⟨second, following, hsecond, hmatch⟩ := hmatch
      obtain ⟨keys, hkeys, -, rfl⟩ := exists_argument hsecond
      split at hmatch
      · rename_i after
        let f := group pickName.piece (whole ++ prepend commaPiece keys) (word .nil)
        -- Both texts begin with the same word, and behind it a balanced text is closed in one way
        -- only.
        have htext : inner.chars ++ '>' :: rest = f.chars ++ '>' :: after := by
          have hsplit : "Partial<Pick<".toList =
              partialName.chars ++ '<' :: (pickName.chars ++ ['<']) := by decide
          rw [hsplit, List.append_assoc] at htext
          have hbehind := (List.cons.inj (List.append_cancel_left htext)).2
          simpa [f, chars, commaPiece, Name.piece] using hbehind
        have hinner : inner = f := chars_inj (inner.balanced.closing_inj f.balanced htext).1
        exact hnone _ ⟨whole, keys, hwhole, hkeys, hinner, rfl⟩
      · cases hmatch
    · cases hmatch

/-- What one round of both rules makes of a text. -/
def Pass (f g : Nested) : Prop :=
  ∃ middle, Rewrites arrayName arrayBody f middle ∧ Rewrites partialName pickBody middle g

/-- A pass as it runs is a pass as described. -/
theorem Pass.respell_eq {f g : Nested} (h : Pass f g) : respell f.chars = g.chars := by
  obtain ⟨middle, harrays, hpicks⟩ := h
  rw [respell, harrays.substitute array_spells, hpicks.substitute partialPick_spells]

/-- There is a pass over every text. -/
theorem exists_pass (f : Nested) : ∃ g, Pass f g := by
  obtain ⟨middle, harrays⟩ := exists_rewrites arrayName arrayBody f
  obtain ⟨g, hpicks⟩ := exists_rewrites partialName pickBody middle
  exact ⟨g, middle, harrays, hpicks⟩

end Nested

end ChangeLens.TypeText
