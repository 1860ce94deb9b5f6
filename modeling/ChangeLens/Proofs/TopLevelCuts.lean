import ChangeLens.Proofs.TypeMembers
import Mathlib.Data.List.Induction

/-!
# `ChangeLens.Proofs.TopLevelCuts`: cutting undoes joining

A text is cut at the separators outside brackets and string literals. Unlike in `isClosed`, what
these are is said here without the scan that does the cutting: a text consists of string literals,
arrows `=>` and single characters (`Lexeme`), and it is closed if every bracket in it has its partner
and the separator stands in brackets or literals only (`ClosedPiece`). A backslash in a literal takes
the character behind it along, so `'\\'` is a whole literal.

The scan looks back one character only, and so it takes the quote at the end of `'\\'` for an escaped
one. `crosses_literal` says where it stands behind a literal: outside, unless the last sign of the
literal is an escaped backslash. Then it stays inside as long as no other literal follows
(`crosses_openLiteral`). With a step for each lexeme, an induction along the text says where the scan
stands behind a closed piece (`crosses_lexemes`).

Hence `splitTopLevel_inverse`: cutting undoes joining for closed pieces in which no literal ends in an
escaped backslash; and if only the last literal of each piece may do so, it undoes joining exactly if
this happens in no piece but the last. `escapedBackslash_not_cut` is a union of two members that is
not cut at all.
-/

set_option autoImplicit false

namespace ChangeLens.TypeText

/-! ### String literals -/

/-- The quotes of string literals. -/
def quotes : List Char :=
  ['\x27', '"', '\x60']

/-- A sign of a string literal. -/
inductive LiteralSign where
  /-- A character that stands for itself. -/
  | plain (c : Char)
  /-- A backslash and the character that it escapes. -/
  | escaped (c : Char)
deriving DecidableEq

namespace LiteralSign

/-- The text of a sign. -/
def chars : LiteralSign → List Char
  | plain c => [c]
  | escaped c => ['\\', c]

/-- The character at the end of a sign. -/
def last : LiteralSign → Char
  | plain c => c
  | escaped c => c

/-- Whether a sign can stand between two quotes: the quote itself and a backslash have to be escaped. -/
def fits (quote : Char) : LiteralSign → Bool
  | plain c => c != quote && c != '\\'
  | escaped _ => true

end LiteralSign

/-- A string literal. What stands in a substitution of a template is text of the literal. -/
structure StringLiteral where
  /-- The quote at both ends. -/
  quote : Char
  /-- What stands between the quotes. -/
  signs : List LiteralSign
  /-- It is one of the quotes. -/
  isQuote : quote ∈ quotes
  /-- No sign ends the literal early. -/
  fits : ∀ sign ∈ signs, sign.fits quote = true
deriving DecidableEq

namespace StringLiteral

/-- The text of a literal. -/
def chars (literal : StringLiteral) : List Char :=
  literal.quote :: (literal.signs.flatMap LiteralSign.chars ++ [literal.quote])

/-- Whether the last sign of a literal is an escaped backslash. -/
def endsEscaped (literal : StringLiteral) : Bool :=
  literal.signs.getLast? == some (.escaped '\\')

/-- A backslash is not a quote. -/
theorem backslash_ne_quote {quote : Char} (h : quote ∈ quotes) : '\\' ≠ quote := by
  rintro rfl
  exact absurd h (by decide)

/-- The character in front of the closing quote. -/
def last (literal : StringLiteral) : Char :=
  (literal.signs.getLast?.map LiteralSign.last).getD literal.quote

/-- A backslash in front of the closing quote is always an escaped one. -/
theorem endsEscaped_iff (literal : StringLiteral) :
    literal.endsEscaped = true ↔ literal.last = '\\' := by
  rw [endsEscaped, beq_iff_eq, last]
  cases hlast : literal.signs.getLast? with
  | none => simpa using (backslash_ne_quote literal.isQuote).symm
  | some sign =>
    have hfits := literal.fits sign (List.mem_of_getLast? hlast)
    cases sign with
    | plain c =>
      rw [LiteralSign.fits, Bool.and_eq_true, bne_iff_ne, bne_iff_ne] at hfits
      simpa [LiteralSign.last] using hfits.2
    | escaped c => simp [LiteralSign.last]

end StringLiteral

/-! ### Closed pieces -/

/-- Opening brackets. -/
def openings : List Char :=
  ['(', '[', '\x7b', '<']

/-- Closing brackets. -/
def closings : List Char :=
  [')', ']', '\x7d', '>']

/-- What a type text is made of. -/
inductive Lexeme where
  /-- A string literal. -/
  | quoted (literal : StringLiteral)
  /-- The arrow `=>`. -/
  | arrow
  /-- Any other character. -/
  | single (c : Char)
deriving DecidableEq

namespace Lexeme

/-- The text of a lexeme. -/
def chars : Lexeme → List Char
  | quoted literal => literal.chars
  | arrow => ['=', '>']
  | single c => [c]

/-- The string literals among lexemes. -/
def literals : List Lexeme → List StringLiteral
  | [] => []
  | quoted literal :: rest => literal :: literals rest
  | _ :: rest => literals rest

/-- Whether the rest of a text is closed where `depth` brackets are open: every bracket has its
partner, every quote belongs to a literal, `=>` is an arrow and the separator does not stand outside
brackets and literals. -/
def closedAt (separator : Char) : Nat → List Lexeme → Bool
  | depth, [] => depth == 0
  | depth, quoted _ :: rest => closedAt separator depth rest
  | depth, arrow :: rest => closedAt separator depth rest
  | depth, single c :: rest =>
    if openings.contains c then closedAt separator (depth + 1) rest
    else if closings.contains c then depth != 0 && closedAt separator (depth - 1) rest
    else
      -- An equals sign in front of `>` makes an arrow with it.
      !quotes.contains c && !(depth == 0 && c == separator) &&
        !(c == '=' && rest.head? == some (single '>')) && closedAt separator depth rest

section ClosedAt

variable {separator c : Char} {depth : Nat} {lexemes rest : List Lexeme}

/-- A single character in a closed text opens a bracket, closes one or does neither. -/
theorem closedAt_single (h : closedAt separator depth (single c :: rest) = true) :
    (c ∈ openings ∧ closedAt separator (depth + 1) rest = true) ∨
    (c ∈ closings ∧ c ∉ openings ∧ ∃ outer, depth = outer + 1 ∧ closedAt separator outer rest = true) ∨
    (c ∉ openings ∧ c ∉ closings ∧ c ∉ quotes ∧ (depth == 0 && c == separator) = false ∧
      (c = '=' → rest.head? ≠ some (single '>')) ∧ closedAt separator depth rest = true) := by
  rw [closedAt] at h
  split at h
  · -- The three cases are those of the definition: a bracket that opens, one that closes, any other
    -- sign.
    rename_i hopening
    exact .inl ⟨List.contains_iff_mem.1 hopening, h⟩
  · rename_i hopening
    rw [List.contains_iff_mem] at hopening
    split at h
    · rename_i hclosing
      rw [Bool.and_eq_true, bne_iff_ne] at h
      obtain ⟨outer, rfl⟩ := Nat.exists_eq_succ_of_ne_zero h.1
      exact .inr (.inl ⟨List.contains_iff_mem.1 hclosing, hopening, outer, rfl, h.2⟩)
    · rename_i hclosing
      rw [List.contains_iff_mem] at hclosing
      simp only [Bool.and_eq_true, Bool.not_eq_true'] at h
      obtain ⟨⟨⟨hquotes, hcut⟩, harrow⟩, hrest⟩ := h
      refine .inr (.inr ⟨hopening, hclosing, ?_, hcut, ?_, hrest⟩)
      · rw [← List.contains_iff_mem, hquotes]
        exact Bool.false_ne_true
      · rintro rfl hhead
        simp [hhead] at harrow

/-- Without literals a closed text has no quotes. -/
theorem quote_notMem_chars {quote : Char} (hmem : quote ∈ quotes)
    (hclosed : closedAt separator depth lexemes = true) (h : literals lexemes = []) :
    quote ∉ lexemes.flatMap chars := by
  -- A quote is neither a bracket nor part of an arrow.
  have hne (signs : List Char) (hsigns : signs.all (!quotes.contains ·) = true) : quote ∉ signs := by
    intro hquote
    have hnone := List.all_eq_true.1 hsigns quote hquote
    rw [Bool.not_eq_true', Bool.eq_false_iff] at hnone
    exact hnone (List.contains_iff_mem.2 hmem)
  induction lexemes generalizing depth with
  | nil => exact List.not_mem_nil
  | cons lexeme rest ih =>
    rw [List.flatMap_cons, List.mem_append, not_or]
    cases lexeme with
    | quoted literal => cases h
    | arrow => exact ⟨hne ['=', '>'] (by decide), ih hclosed h⟩
    | single c =>
      rw [chars, List.mem_singleton]
      rcases closedAt_single hclosed with
        ⟨hc, hrest⟩ | ⟨hc, -, outer, -, hrest⟩ | ⟨-, -, hc, -, -, hrest⟩
      · exact ⟨fun heq => hne openings (by decide) (heq ▸ hc), ih hrest h⟩
      · exact ⟨fun heq => hne closings (by decide) (heq ▸ hc), ih hrest h⟩
      · exact ⟨fun heq => hc (heq ▸ hmem), ih hrest h⟩

end ClosedAt

end Lexeme

/-- A closed text. Which kind of bracket closes which is not looked at. -/
structure ClosedPiece (separator : Char) where
  /-- What it is made of. -/
  lexemes : List Lexeme
  /-- It is closed. -/
  closed : Lexeme.closedAt separator 0 lexemes = true

namespace ClosedPiece

variable {separator : Char}

/-- The text of a piece. -/
def chars (piece : ClosedPiece separator) : List Char :=
  piece.lexemes.flatMap Lexeme.chars

/-- The string literals in a piece. -/
def literals (piece : ClosedPiece separator) : List StringLiteral :=
  Lexeme.literals piece.lexemes

/-- No literal ends in an escaped backslash. -/
def Clear (piece : ClosedPiece separator) : Prop :=
  ∀ literal ∈ piece.literals, literal.endsEscaped = false

/-- A literal is closed, whatever stands in it. -/
def ofLiteral (literal : StringLiteral) : ClosedPiece separator :=
  ⟨[.quoted literal], rfl⟩

instance (piece : ClosedPiece separator) : Decidable piece.Clear :=
  inferInstanceAs (Decidable (∀ literal ∈ piece.literals, literal.endsEscaped = false))

end ClosedPiece

/-! ### Reading without a cut -/

/-- A sign of a list without neutral signs is not neutral. -/
theorem not_isNeutral_of_mem {signs : List Char} {c : Char} (hc : c ∈ signs)
    (hsigns : signs.all (!isNeutral ·) = true) : isNeutral c = false := by
  simpa using List.all_eq_true.1 hsigns c hc

namespace Scan

/-- The scan reads a text without a cut and then stands at `next`. -/
def Crosses (separator : Char) (scan : Scan) (cs : List Char) (next : Scan) : Prop :=
  ∀ piece rest, splitFrom separator scan piece (cs ++ rest) =
    splitFrom separator next (cs.reverse ++ piece) rest

section Crosses

variable {separator c : Char} {scan middle next : Scan} {cs ds : List Char}

/-- The empty text is crossed without a step. -/
theorem crosses_nil : Crosses separator scan [] scan := fun _ _ => rfl

/-- Two texts are crossed one after the other. -/
theorem Crosses.append (hcs : Crosses separator scan cs middle)
    (hds : Crosses separator middle ds next) : Crosses separator scan (cs ++ ds) next := by
  intro piece rest
  rw [List.append_assoc, hcs, hds, List.reverse_append, List.append_assoc]

/-- A character at which the scan does not cut is read. -/
theorem crosses_single (hcut : scan.isCut separator c = false) (hnext : scan.next c = next) :
    Crosses separator scan [c] next := by
  intro piece rest
  rw [List.singleton_append, splitFrom, hcut, if_neg Bool.false_ne_true, hnext]
  rfl

/-! ### Inside a literal -/

variable {quote : Char}

/-- There is no cut inside a literal. -/
theorem isCut_of_quote (hquote : scan.quote = some quote) : scan.isCut separator c = false := by
  simp [isCut, hquote]

/-- A character other than the quote leaves the literal open. -/
theorem crosses_of_ne_quote (hquote : scan.quote = some quote) (hc : c ≠ quote) :
    Crosses separator scan [c] { scan with previous := some c } :=
  crosses_single (isCut_of_quote hquote) (by simp [next, hquote, hc])

/-- So does every text without the quote. -/
theorem crosses_of_quote_notMem (hquote : scan.quote = some quote) (h : quote ∉ cs) :
    ∃ next, Crosses separator scan cs next ∧ next.quote = some quote := by
  induction cs generalizing scan with
  | nil => exact ⟨scan, crosses_nil, hquote⟩
  | cons c cs ih =>
    rw [List.mem_cons, not_or] at h
    obtain ⟨next, hcross, hnext⟩ := @ih { scan with previous := some c } hquote h.2
    exact ⟨next, (crosses_of_ne_quote hquote (Ne.symm h.1)).append hcross, hnext⟩

/-- A sign of the literal leaves it open. -/
theorem crosses_sign {sign : LiteralSign} (hquote : scan.quote = some quote) (hmem : quote ∈ quotes)
    (hfits : sign.fits quote = true) :
    Crosses separator scan sign.chars { scan with previous := some sign.last } := by
  cases sign with
  | plain c =>
    rw [LiteralSign.fits, Bool.and_eq_true, bne_iff_ne] at hfits
    exact crosses_of_ne_quote hquote hfits.1
  | escaped c =>
    refine (crosses_of_ne_quote hquote (StringLiteral.backslash_ne_quote hmem)).append
      (crosses_single (isCut_of_quote hquote) ?_)
    -- Even the quote does not end the literal here.
    simp [next, hquote, LiteralSign.last]

/-- So do all its signs, and the last of them decides what stands in front of the closing quote. -/
theorem crosses_signs {signs : List LiteralSign} (hquote : scan.quote = some quote)
    (hprevious : scan.previous = some c) (hmem : quote ∈ quotes)
    (hfits : ∀ sign ∈ signs, sign.fits quote = true) :
    Crosses separator scan (signs.flatMap LiteralSign.chars)
      { scan with previous := some ((signs.getLast?.map LiteralSign.last).getD c) } := by
  induction signs using List.reverseRecOn with
  | nil =>
    show Crosses separator scan [] { scan with previous := some c }
    rw [← hprevious]
    exact crosses_nil
  | append_singleton signs sign ih =>
    rw [List.forall_mem_append, List.forall_mem_singleton] at hfits
    rw [List.flatMap_append, List.flatMap_singleton, List.getLast?_concat]
    exact (ih hfits.1).append (crosses_sign hquote hmem hfits.2)

/-- The scan comes out of a literal exactly if its last sign is no escaped backslash. -/
theorem crosses_literal (literal : StringLiteral) (hseparator : isNeutral separator = true)
    (hquote : scan.quote = none) :
    Crosses separator scan literal.chars
      { scan with
        quote := if literal.endsEscaped then some literal.quote else none
        previous := some literal.quote } := by
  let inside : Scan := { scan with quote := some literal.quote, previous := some literal.quote }
  -- The quote opens the literal, the signs stay inside, and what is left is the closing quote.
  have hopens : Crosses separator scan [literal.quote] inside := by
    have hneutral : isNeutral literal.quote = false := not_isNeutral_of_mem literal.isQuote (by decide)
    refine crosses_single (isCut_of_structural hquote hseparator hneutral) ?_
    rw [next, hquote]
    exact if_pos (by simpa [quotes, or_assoc] using literal.isQuote)
  have hsigns : Crosses separator inside (literal.signs.flatMap LiteralSign.chars)
      { inside with previous := some literal.last } :=
    crosses_signs rfl rfl literal.isQuote literal.fits
  refine (hopens.append hsigns).append (crosses_single (isCut_of_quote rfl) ?_)
  -- The closing quote counts unless a backslash stands in front of it.
  have hbackslash := literal.endsEscaped_iff
  cases hends : literal.endsEscaped with
  | true => simp [next, inside, hbackslash.1 hends]
  | false =>
    have hlast : literal.last ≠ '\\' := fun heq => Bool.false_ne_true (hends ▸ hbackslash.2 heq)
    simp [next, inside, hlast]

/-! ### Outside literals -/

section Outside

variable (hseparator : isNeutral separator = true) (hquote : scan.quote = none)
include hseparator hquote

/-- An arrow is crossed at the same depth: its bracket closes nothing. -/
theorem crosses_arrow : Crosses separator scan ['=', '>'] { scan with previous := some '>' } := by
  let middle : Scan := { scan with previous := some '=' }
  have hmiddle : middle.quote = none := hquote
  have hequals : Crosses separator scan ['='] middle :=
    crosses_single (isCut_of_structural hquote hseparator (by decide)) (by simp [next, hquote, middle])
  -- Behind the equals sign the bracket does not close anything.
  exact hequals.append (crosses_single (isCut_of_structural hmiddle hseparator (by decide))
    (by simp [next, hquote, middle]))

/-- An opening bracket is crossed to the next depth. -/
theorem crosses_opening (hc : c ∈ openings) :
    Crosses separator scan [c] { scan with depth := scan.depth + 1, previous := some c } := by
  have hneutral : isNeutral c = false := not_isNeutral_of_mem hc (by decide)
  refine crosses_single (isCut_of_structural hquote hseparator hneutral) ?_
  simp only [openings, List.mem_cons, List.not_mem_nil, or_false] at hc
  rcases hc with rfl | rfl | rfl | rfl <;> simp [next, hquote]

/-- A closing bracket that does not end an arrow is crossed to the depth outside. -/
theorem crosses_closing (hc : c ∈ closings) (harrow : c = '>' → scan.previous ≠ some '=') :
    Crosses separator scan [c] { scan with depth := scan.depth - 1, previous := some c } := by
  have hneutral : isNeutral c = false := not_isNeutral_of_mem hc (by decide)
  refine crosses_single (isCut_of_structural hquote hseparator hneutral) ?_
  simp only [closings, List.mem_cons, List.not_mem_nil, or_false] at hc
  rcases hc with rfl | rfl | rfl | rfl
  · simp [next, hquote]
  · simp [next, hquote]
  · simp [next, hquote]
  · -- Only this bracket could be the second half of an arrow.
    simp [next, hquote, harrow rfl]

/-- Any other sign is crossed at the same depth, unless it is a separator outside brackets. -/
theorem crosses_other (hopening : c ∉ openings) (hclosing : c ∉ closings) (hc : c ∉ quotes)
    (hcut : (scan.depth == 0 && c == separator) = false) :
    Crosses separator scan [c] { scan with previous := some c } := by
  refine crosses_single ((isCut_of_neutral hquote hseparator).trans hcut) ?_
  simp only [openings, closings, quotes, List.mem_cons, List.not_mem_nil, or_false, not_or] at *
  simp [next, hquote, hopening, hclosing, hc]

end Outside

end Crosses

/-! ### Behind a closed text -/

section Lexemes

variable {separator : Char} {lexemes : List Lexeme} {scan : Scan}

/-- Something holds of all but the last item of a list if nothing follows the first item, or if it
holds of the first item and of all but the last that follow. -/
theorem forall_mem_dropLast_cons {α : Type} {p : α → Prop} {a : α} {xs : List α} :
    (∀ x ∈ (a :: xs).dropLast, p x) ↔ xs = [] ∨ p a ∧ ∀ x ∈ xs.dropLast, p x := by
  cases xs <;> simp

/-- A literal that ends in an escaped backslash stays open while no other literal follows. -/
theorem crosses_openLiteral {literal : StringLiteral} {depth : Nat}
    (hseparator : isNeutral separator = true) (hquote : scan.quote = none)
    (hends : literal.endsEscaped = true) (hclosed : Lexeme.closedAt separator depth lexemes = true)
    (hnone : Lexeme.literals lexemes = []) :
    ∃ next, Crosses separator scan (literal.chars ++ lexemes.flatMap Lexeme.chars) next ∧
      next.quote = some literal.quote := by
  have hcross := crosses_literal literal hseparator hquote
  rw [hends, if_pos rfl] at hcross
  obtain ⟨next, hnext, hopen⟩ := @crosses_of_quote_notMem separator
    { scan with quote := some literal.quote, previous := some literal.quote } _ _ rfl
    (Lexeme.quote_notMem_chars literal.isQuote hclosed hnone)
  exact ⟨next, hcross.append hnext, hopen⟩

/-- Behind a closed text in which only the last literal may end in an escaped backslash the scan
stands outside literals exactly if this literal does not, and then outside brackets too. -/
theorem crosses_lexemes (hseparator : isNeutral separator = true) (hquote : scan.quote = none)
    (hclosed : Lexeme.closedAt separator scan.depth lexemes = true)
    (harrow : lexemes.head? = some (.single '>') → scan.previous ≠ some '=')
    (hlast : ∀ literal ∈ (Lexeme.literals lexemes).dropLast, literal.endsEscaped = false) :
    ∃ next, Crosses separator scan (lexemes.flatMap Lexeme.chars) next ∧
      (next.quote = none ↔ ∀ literal ∈ Lexeme.literals lexemes, literal.endsEscaped = false) ∧
      (next.quote = none → next.depth = 0) := by
  -- The induction is on the lexemes. Outside literals the scan counts the same open brackets as
  -- `closedAt`, and it has not just read an equals sign when a bracket `>` comes next.
  induction lexemes generalizing scan with
  | nil =>
    refine ⟨scan, crosses_nil, iff_of_true hquote fun _ h => absurd h List.not_mem_nil, fun _ => ?_⟩
    simpa [Lexeme.closedAt] using hclosed
  | cons lexeme rest ih =>
    rw [List.flatMap_cons]
    cases lexeme with
    | quoted literal =>
      have hrest : Lexeme.closedAt separator scan.depth rest = true := hclosed
      cases hends : literal.endsEscaped with
      | true =>
        -- A literal that ends in a backslash does not close, so it has to be the last one.
        have hnone : Lexeme.literals rest = [] := by
          refine (forall_mem_dropLast_cons.1 hlast).resolve_right fun h => ?_
          rw [hends] at h
          cases h.1
        obtain ⟨next, hnext, hopen⟩ := crosses_openLiteral hseparator hquote hends hrest hnone
        refine ⟨next, hnext, iff_of_false (by simp [hopen]) fun hall => ?_, by simp [hopen]⟩
        rw [hall literal List.mem_cons_self] at hends
        cases hends
      | false =>
        -- The scan is outside again, and what was asked of the last literal still is.
        have hmore : ∀ literal ∈ (Lexeme.literals rest).dropLast, literal.endsEscaped = false := by
          rcases forall_mem_dropLast_cons.1 hlast with hnone | ⟨-, hmore⟩
          · simp [hnone]
          · exact hmore
        have hequals : literal.quote ≠ '=' := fun heq => absurd (heq ▸ literal.isQuote) (by decide)
        have hcross := crosses_literal literal hseparator hquote
        rw [hends, if_neg Bool.false_ne_true] at hcross
        obtain ⟨next, hnext, hclear, hend⟩ :=
          @ih { scan with quote := none, previous := some literal.quote } rfl hrest
            (fun _ => by simpa using hequals) hmore
        refine ⟨next, hcross.append hnext, ?_, hend⟩
        rw [hclear, Lexeme.literals, List.forall_mem_cons, and_iff_right hends]
    | arrow =>
      obtain ⟨next, hnext, hend⟩ :=
        @ih { scan with previous := some '>' } hquote hclosed (fun _ => by simp) hlast
      exact ⟨next, (crosses_arrow hseparator hquote).append hnext, hend⟩
    | single c =>
      rcases Lexeme.closedAt_single hclosed with
        ⟨hc, hrest⟩ | ⟨hc, -, outer, hdepth, hrest⟩ | ⟨hopening, hclosing, hc, hcut, hequals, hrest⟩
      · -- A bracket goes one level in or out, and it is no equals sign, so no arrow can end behind
        -- it.
        have hequals : c ≠ '=' := fun heq => absurd (heq ▸ hc) (by decide)
        obtain ⟨next, hnext, hend⟩ :=
          @ih { scan with depth := scan.depth + 1, previous := some c } hquote hrest
            (fun _ => by simpa using hequals) hlast
        exact ⟨next, (crosses_opening hseparator hquote hc).append hnext, hend⟩
      · have hequals : c ≠ '=' := fun heq => absurd (heq ▸ hc) (by decide)
        have hcloses : c = '>' → scan.previous ≠ some '=' := fun heq => harrow (by rw [heq]; rfl)
        obtain ⟨next, hnext, hend⟩ :=
          @ih { scan with depth := scan.depth - 1, previous := some c } hquote
            (by rwa [hdepth]) (fun _ => by simpa using hequals) hlast
        exact ⟨next, (crosses_closing hseparator hquote hc hcloses).append hnext, hend⟩
      · obtain ⟨next, hnext, hend⟩ :=
          @ih { scan with previous := some c } hquote hrest
            (fun hhead heq => hequals (Option.some.inj heq) hhead) hlast
        exact ⟨next, (crosses_other hseparator hquote hopening hclosing hc hcut).append hnext, hend⟩

end Lexemes

end Scan

/-! ### Joined pieces -/

/-- The piece at which a scan stands goes on with what follows. -/
theorem splitFrom_eq_cons (separator : Char) (scan : Scan) (piece cs : List Char) :
    ∃ more pieces, splitFrom separator scan piece cs = (piece.reverse ++ more) :: pieces := by
  induction cs generalizing scan piece with
  | nil => exact ⟨[], [], by rw [splitFrom, List.append_nil]⟩
  | cons c rest ih =>
    rw [splitFrom]
    split
    · exact ⟨[], _, by rw [List.append_nil]⟩
    · obtain ⟨more, pieces, hsplit⟩ := ih (scan.next c) (c :: piece)
      exact ⟨c :: more, pieces, by rw [hsplit, List.reverse_cons, List.append_assoc]; rfl⟩

section Pieces

variable {separator : Char}

/-- A piece is read from its start without a cut; `crosses_lexemes` says where the scan stands then. -/
theorem ClosedPiece.crosses (piece : ClosedPiece separator) (hseparator : isNeutral separator = true)
    (hlast : ∀ literal ∈ piece.literals.dropLast, literal.endsEscaped = false) {scan : Scan}
    (hcalm : scan.Calm) (hdepth : scan.depth = 0) :
    ∃ next, scan.Crosses separator piece.chars next ∧ (next.quote = none ↔ piece.Clear) ∧
      (next.quote = none → next.depth = 0) :=
  Scan.crosses_lexemes hseparator hcalm.quote (by rw [hdepth]; exact piece.closed)
    (fun _ => hcalm.previous) hlast

/-- Where only the last literal of each piece may end in an escaped backslash, cutting undoes joining
exactly if this happens in no piece but the last. -/
theorem splitTopLevel_join_iff (hseparator : isNeutral separator = true)
    {pieces : List (ClosedPiece separator)} (hpieces : pieces ≠ [])
    (hlast : ∀ piece ∈ pieces, ∀ literal ∈ piece.literals.dropLast, literal.endsEscaped = false) :
    splitTopLevel separator ([separator].intercalate (pieces.map ClosedPiece.chars)) =
        pieces.map ClosedPiece.chars ↔
      ∀ piece ∈ pieces.dropLast, piece.Clear := by
  -- The induction is on the pieces that follow; each begins with a calm scan outside brackets.
  have hfrom (first : ClosedPiece separator) (more : List (ClosedPiece separator)) (scan : Scan)
      (hcalm : scan.Calm) (hdepth : scan.depth = 0)
      (hlast : ∀ piece ∈ first :: more, ∀ literal ∈ piece.literals.dropLast,
        literal.endsEscaped = false) :
      splitFrom separator scan [] ([separator].intercalate ((first :: more).map ClosedPiece.chars)) =
          (first :: more).map ClosedPiece.chars ↔
        ∀ piece ∈ (first :: more).dropLast, piece.Clear := by
    induction more generalizing first scan with
    | nil =>
      -- There is no separator behind the last piece, so it does not matter whether it is closed.
      obtain ⟨next, hcross, -, -⟩ :=
        first.crosses hseparator (hlast first List.mem_cons_self) hcalm hdepth
      have hsplit := hcross [] []
      rw [List.append_nil, List.append_nil, splitFrom, List.reverse_reverse] at hsplit
      rw [List.map_singleton, List.intercalate_singleton, hsplit]
      exact iff_of_true rfl (by simp)
    | cons second more ih =>
      rw [List.forall_mem_cons] at hlast
      obtain ⟨next, hcross, hclear, hend⟩ := first.crosses hseparator hlast.1 hcalm hdepth
      rw [List.map_cons, List.map_cons, List.intercalate_cons_cons, List.append_assoc, hcross,
        List.singleton_append, splitFrom, List.dropLast_cons_cons, List.forall_mem_cons, ← hclear,
        List.append_nil, List.reverse_reverse]
      cases hopen : next.quote with
      | none =>
        -- The scan cuts at the separator and begins the next piece as it began this one.
        have hcut : next.isCut separator separator = true := by
          rw [Scan.isCut_of_neutral hopen hseparator, hend hopen]
          simp
        have hnext : (next.next separator).depth = 0 := by
          rw [Scan.next_of_neutral hopen hseparator]
          exact hend hopen
        rw [hcut, if_pos rfl, List.cons_inj_right, ← List.map_cons,
          ih second _ (Scan.calm_next_of_neutral hopen hseparator) hnext hlast.2]
        exact (and_iff_right rfl).symm
      | some quote =>
        -- The separator goes on with the literal, so the first piece comes out longer.
        obtain ⟨rest, pieces, hsplit⟩ := splitFrom_eq_cons separator
          (next.next separator) (separator :: first.chars.reverse)
          ([separator].intercalate (second.chars :: more.map ClosedPiece.chars))
        rw [Scan.isCut_of_quote hopen, if_neg Bool.false_ne_true, hsplit]
        refine iff_of_false (fun heq => ?_) (by simp)
        have hlength := congrArg List.length (List.cons.inj heq).1
        simp at hlength
  cases pieces with
  | nil => exact absurd rfl hpieces
  | cons first more => exact hfrom first more {} Scan.initial_calm rfl hlast

end Pieces

/-! ### Unions and intersections -/

/-- Joining undoes cutting for every text. Cutting undoes joining for closed pieces in which no literal
ends in an escaped backslash. Where the last literal of a piece may end so, cutting undoes joining
exactly if this happens in no piece but the last. -/
theorem splitTopLevel_inverse {separator : Char} (hseparator : separator ∈ ['|', '&']) :
    (∀ cs, [separator].intercalate (splitTopLevel separator cs) = cs) ∧
    (∀ pieces : List (ClosedPiece separator), pieces ≠ [] → (∀ piece ∈ pieces, piece.Clear) →
      splitTopLevel separator ([separator].intercalate (pieces.map ClosedPiece.chars)) =
        pieces.map ClosedPiece.chars) ∧
    ∀ pieces : List (ClosedPiece separator), pieces ≠ [] →
      (∀ piece ∈ pieces, ∀ literal ∈ piece.literals.dropLast, literal.endsEscaped = false) →
      (splitTopLevel separator ([separator].intercalate (pieces.map ClosedPiece.chars)) =
          pieces.map ClosedPiece.chars ↔
        ∀ piece ∈ pieces.dropLast, piece.Clear) := by
  have hneutral : isNeutral separator = true := by
    simp only [List.mem_cons, List.not_mem_nil, or_false] at hseparator
    rcases hseparator with rfl | rfl <;> decide
  refine ⟨join_splitTopLevel separator, fun pieces hpieces hclear => ?_,
    fun pieces hpieces hlast => splitTopLevel_join_iff hneutral hpieces hlast⟩
  have hlast : ∀ piece ∈ pieces, ∀ literal ∈ piece.literals.dropLast, literal.endsEscaped = false :=
    fun piece hpiece literal hliteral => hclear piece hpiece literal (List.dropLast_subset _ hliteral)
  exact (splitTopLevel_join_iff hneutral hpieces hlast).2 fun piece hpiece =>
    hclear piece (List.dropLast_subset _ hpiece)

/-- Separators in brackets and literals stay, and a literal may end in a backslash in the last piece. -/
theorem splitTopLevel_inverse_members :
    ∃ members paths : List (ClosedPiece '|'),
      members.map ClosedPiece.chars = ["Map<A|B,C>".toList, "(x)=>A".toList, "'a|b'".toList] ∧
      paths.map ClosedPiece.chars = ["'/'".toList, "'\\\\'".toList] ∧
      (∀ piece ∈ members, piece.Clear) ∧
      (∀ piece ∈ paths, ∀ literal ∈ piece.literals.dropLast, literal.endsEscaped = false) ∧
      (∀ piece ∈ paths.dropLast, piece.Clear) ∧
      splitTopLevel '|' "Map<A|B,C>|(x)=>A|'a|b'".toList = members.map ClosedPiece.chars ∧
      splitTopLevel '|' "'/'|'\\\\'".toList = paths.map ClosedPiece.chars := by
  let generic : ClosedPiece '|' := ⟨"Map<A|B,C>".toList.map .single, by decide⟩
  let function : ClosedPiece '|' := ⟨"(x)".toList.map .single ++ [.arrow, .single 'A'], by decide⟩
  let bar : ClosedPiece '|' := .ofLiteral ⟨'\x27', "a|b".toList.map .plain, by decide, by decide⟩
  let slash : ClosedPiece '|' := .ofLiteral ⟨'\x27', [.plain '/'], by decide, by decide⟩
  let backslash : ClosedPiece '|' := .ofLiteral ⟨'\x27', [.escaped '\\'], by decide, by decide⟩
  have hmembers : ∀ piece ∈ [generic, function, bar], piece.Clear := by decide
  have hpaths : ∀ piece ∈ [slash, backslash], ∀ literal ∈ piece.literals.dropLast,
      literal.endsEscaped = false := by decide
  have hslash : ∀ piece ∈ [slash, backslash].dropLast, piece.Clear := by decide
  obtain ⟨-, hclear, hexactly⟩ := @splitTopLevel_inverse '|' (by decide)
  exact ⟨[generic, function, bar], [slash, backslash], rfl, rfl, hmembers, hpaths, hslash,
    hclear _ (List.cons_ne_nil _ _) hmembers,
    (hexactly _ (List.cons_ne_nil _ _) hpaths).2 hslash⟩

/-- In the other order the same two members are not cut apart, and so they stay in descending order. -/
theorem escapedBackslash_not_cut :
    ∃ backslash slash : ClosedPiece '|',
      backslash.chars = "'\\\\'".toList ∧ slash.chars = "'/'".toList ∧
      splitTopLevel '|' (['|'].intercalate [backslash.chars, slash.chars]) =
        ["'\\\\'|'/'".toList] ∧
      splitTopLevel '|' (['|'].intercalate [backslash.chars, slash.chars]) ≠
        [backslash.chars, slash.chars] ∧
      slash.chars < backslash.chars ∧
      canonicalChars "'\\\\'|'/'".toList = "'\\\\'|'/'".toList := by
  let backslash : ClosedPiece '|' := .ofLiteral ⟨'\x27', [.escaped '\\'], by decide, by decide⟩
  let slash : ClosedPiece '|' := .ofLiteral ⟨'\x27', [.plain '/'], by decide, by decide⟩
  exact ⟨backslash, slash, rfl, rfl, by decide, by decide, by decide, by decide +kernel⟩

end ChangeLens.TypeText
