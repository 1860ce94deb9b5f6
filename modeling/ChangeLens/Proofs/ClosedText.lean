import ChangeLens.Proofs.TypeMembers

/-!
# `ChangeLens.Proofs.ClosedText`: texts that can be joined and cut again

A text is closed for a separator when every bracket in it has its partner, no literal is open at its
end and the separator stands only in brackets and literals. `isClosed` decides this by one scan from
the start. The scan of a longer text meets a piece of it inside other brackets. `Scan.Shifted` says
that the two scans then see the same but for a fixed number of brackets, and each character keeps it
(`Scan.Shifted.next`), so a closed text passes at every depth (`passes_of_isClosed`).

Hence joined closed pieces are known by the joined text (`join_inj`), and a closed text in front of a
separator is known by the whole (`cut_inj`).
-/

set_option autoImplicit false

namespace ChangeLens.TypeText

/-! ### Closed texts -/

/-- Whether `c` closes a bracket where the scan stands; the `>` of `=>` does not. -/
def Scan.closes (scan : Scan) (c : Char) : Bool :=
  scan.quote.isNone && [')', ']', '\x7d', '>'].contains c && !(c = '>' && scan.previous == some '=')

/-- Whether the rest of a text is closed where the scan stands. An equals sign at the end is refused,
because it would change the meaning of a `>` behind it. -/
def closesFrom (separator : Char) : Scan → List Char → Bool
  | scan, [] => scan.quote.isNone && scan.depth == 0 && scan.previous != some '='
  | scan, c :: rest =>
    !scan.isCut separator c && !(scan.closes c && scan.depth == 0) &&
      closesFrom separator (scan.next c) rest

/-- Whether a text is closed for a separator. -/
def isClosed (separator : Char) (cs : List Char) : Bool :=
  closesFrom separator {} cs

/-! ### The same text inside other brackets -/

namespace Scan

/-- Two scans that see the same, the outer one with `extra` more brackets open. What they read last
may differ where it says nothing about what follows. -/
structure Shifted (extra : Nat) (inner outer : Scan) : Prop where
  /-- They stand in the same literal or in none. -/
  quote : outer.quote = inner.quote
  /-- The outer scan is deeper. -/
  depth : outer.depth = inner.depth + extra
  /-- They read the same character last, or one that changes nothing. -/
  previous : outer.previous = inner.previous ∨ inner.Calm ∧ outer.Calm

variable {extra : Nat} {inner outer : Scan} {c separator : Char}

/-- Both scans take the same `>` for part of an arrow. -/
theorem Shifted.arrow_eq (h : Shifted extra inner outer) :
    (outer.previous == some '=') = (inner.previous == some '=') := by
  rcases h.previous with hsame | ⟨hinner, houter⟩
  · rw [hsame]
  · rw [beq_eq_false_iff_ne.2 hinner.previous, beq_eq_false_iff_ne.2 houter.previous]

/-- Where the inner scan does not cut, the outer one does not either. -/
theorem Shifted.isCut_eq_false (h : Shifted extra inner outer)
    (hinner : inner.isCut separator c = false) : outer.isCut separator c = false := by
  rw [isCut, h.quote, h.depth, h.arrow_eq, Bool.eq_false_iff]
  rw [isCut, Bool.eq_false_iff] at hinner
  intro hcut
  refine hinner ?_
  simp only [Bool.and_eq_true, beq_iff_eq] at hcut ⊢
  obtain ⟨⟨⟨⟨hquote, hdepth⟩, hc⟩, hopening⟩, hclosing⟩ := hcut
  exact ⟨⟨⟨⟨hquote, by omega⟩, hc⟩, hopening⟩, hclosing⟩

/-- Inside a literal both scans read the same. -/
theorem Shifted.next_of_quote (h : Shifted extra inner outer) {quote : Char}
    (hquote : inner.quote = some quote) : Shifted extra (inner.next c) (outer.next c) := by
  have hprevious : outer.previous = inner.previous := by
    rcases h.previous with hsame | ⟨hinner, -⟩
    · exact hsame
    · rw [hinner.quote] at hquote
      cases hquote
  have houter : outer.quote = some quote := h.quote.trans hquote
  rw [next, next, hquote, houter, hprevious]
  exact ⟨rfl, h.depth, Or.inl rfl⟩

/-- Outside literals a bracket moves both scans by one, as long as the inner one closes no bracket
that it did not open. -/
theorem Shifted.next_of_none (h : Shifted extra inner outer) (hquote : inner.quote = none)
    (hmatched : (inner.closes c && inner.depth == 0) = false) :
    Shifted extra (inner.next c) (outer.next c) := by
  have houter : outer.quote = none := h.quote.trans hquote
  have hdepth := h.depth
  rw [next, next, hquote, houter, h.arrow_eq]
  dsimp only
  split
  · exact ⟨rfl, hdepth, Or.inl rfl⟩
  · split
    · exact ⟨rfl, by show outer.depth + 1 = inner.depth + 1 + extra; omega, Or.inl rfl⟩
    · split
      · rename_i hclosing
        have hopen : inner.depth ≠ 0 := by
          intro hzero
          rw [closes, hquote, hzero] at hmatched
          simp only [Option.isNone_none, Bool.true_and, hclosing, beq_self_eq_true] at hmatched
          cases hmatched
        exact ⟨rfl, by show outer.depth - 1 = inner.depth - 1 + extra; omega, Or.inl rfl⟩
      · exact ⟨rfl, hdepth, Or.inl rfl⟩

/-- The two scans stay shifted until the inner one would close a bracket it has not opened. -/
theorem Shifted.next (h : Shifted extra inner outer)
    (hmatched : (inner.closes c && inner.depth == 0) = false) :
    Shifted extra (inner.next c) (outer.next c) := by
  cases hquote : inner.quote with
  | some quote => exact h.next_of_quote hquote
  | none => exact h.next_of_none hquote hmatched

end Scan

variable {separator : Char}

/-- A closed text passes wherever it stands. -/
theorem passes_of_isClosed {cs : List Char} (h : isClosed separator cs = true) :
    Passes separator 0 cs := by
  -- The induction is on the text, with the scan from its start beside the scan of the whole.
  have hfrom (cs : List Char) (extra : Nat) (inner outer : Scan) (piece rest : List Char)
      (hshifted : Scan.Shifted extra inner outer) (h : closesFrom separator inner cs = true) :
      ∃ next : Scan, next.Calm ∧ next.depth = extra ∧
        splitFrom separator outer piece (cs ++ rest) =
          splitFrom separator next (cs.reverse ++ piece) rest := by
    induction cs generalizing inner outer piece with
    | nil =>
      rw [closesFrom, Bool.and_eq_true, Bool.and_eq_true, Option.isNone_iff_eq_none, beq_iff_eq] at h
      obtain ⟨⟨hquote, hdepth⟩, hprevious⟩ := h
      have harrow : (outer.previous == some '=') = false := by
        rw [hshifted.arrow_eq]
        simpa using hprevious
      refine ⟨outer, ⟨hshifted.quote.trans hquote, beq_eq_false_iff_ne.1 harrow⟩, ?_, rfl⟩
      rw [hshifted.depth, hdepth, Nat.zero_add]
    | cons c cs ih =>
      rw [closesFrom, Bool.and_eq_true, Bool.and_eq_true, Bool.not_eq_true', Bool.not_eq_true'] at h
      obtain ⟨⟨hcut, hmatched⟩, hrest⟩ := h
      obtain ⟨next, hcalm, hdepth, hsplit⟩ := ih _ _ (c :: piece) (hshifted.next hmatched) hrest
      refine ⟨next, hcalm, hdepth, ?_⟩
      rw [List.cons_append, splitFrom, hshifted.isCut_eq_false hcut, if_neg Bool.false_ne_true, hsplit,
        List.reverse_cons, List.append_assoc, List.singleton_append]
  intro scan piece rest hcalm _
  have hshifted : Scan.Shifted scan.depth {} scan :=
    ⟨hcalm.quote, (Nat.zero_add _).symm, Or.inr ⟨Scan.initial_calm, hcalm⟩⟩
  exact hfrom cs scan.depth {} scan piece rest hshifted h

/-! ### Joined and cut -/

/-- Pieces that pass and are not empty are known by the joined text. -/
theorem join_inj (hseparator : isNeutral separator = true) {xs ys : List (List Char)}
    (hxs : ∀ piece ∈ xs, Passes separator 0 piece ∧ piece ≠ [])
    (hys : ∀ piece ∈ ys, Passes separator 0 piece ∧ piece ≠ [])
    (h : [separator].intercalate xs = [separator].intercalate ys) : xs = ys := by
  -- Only of no piece at all the joined text is empty.
  have hempty (pieces : List (List Char)) (hpieces : ∀ piece ∈ pieces, piece ≠ [])
      (hnil : [separator].intercalate pieces = []) : pieces = [] := by
    refine List.eq_nil_iff_forall_not_mem.2 fun piece hpiece => ?_
    obtain ⟨c, rest, hcons⟩ := List.exists_cons_of_ne_nil (hpieces piece hpiece)
    have hmem : c ∈ [separator].intercalate pieces := mem_join hpiece (hcons ▸ List.mem_cons_self)
    rw [hnil] at hmem
    cases hmem
  by_cases hxsNil : xs = []
  · rw [hxsNil] at h ⊢
    exact (hempty ys (fun piece hpiece => (hys piece hpiece).2) h.symm).symm
  · by_cases hysNil : ys = []
    · rw [hysNil] at h ⊢
      exact hempty xs (fun piece hpiece => (hxs piece hpiece).2) h
    · rw [← splitTopLevel_join hseparator hxsNil fun piece hpiece => (hxs piece hpiece).1,
        ← splitTopLevel_join hseparator hysNil fun piece hpiece => (hys piece hpiece).1, h]

/-- What passes in front of a separator is known by the whole text. -/
theorem cut_inj (hseparator : isNeutral separator = true) {xs ys us vs : List Char}
    (hxs : Passes separator 0 xs) (hys : Passes separator 0 ys)
    (h : xs ++ separator :: us = ys ++ separator :: vs) : xs = ys ∧ us = vs := by
  have hfirst (cs rest : List Char) (hcs : Passes separator 0 cs) :
      (splitTopLevel separator (cs ++ separator :: rest)).head? = some cs := by
    obtain ⟨next, hcalm, hdepth, hsplit⟩ :=
      hcs {} [] (separator :: rest) Scan.initial_calm (Nat.zero_le _)
    have hcut : next.isCut separator separator = true := by
      rw [Scan.isCut_of_neutral hcalm.quote hseparator, hdepth]
      simp
    rw [splitTopLevel, hsplit, splitFrom, hcut, if_pos rfl, List.append_nil, List.reverse_reverse]
    rfl
  have hsame : some xs = some ys := by rw [← hfirst xs us hxs, h, hfirst ys vs hys]
  cases hsame
  exact ⟨rfl, List.tail_eq_of_cons_eq (List.append_cancel_left h)⟩

end ChangeLens.TypeText
