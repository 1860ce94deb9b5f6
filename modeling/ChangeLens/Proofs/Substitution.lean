import ChangeLens.Text.Substitute

/-!
# `ChangeLens.Proofs.Substitution`: a pass over a text where a rule does not apply

A pass copies the places where its rule does nothing (`substituteFrom_copy`); if these are all
places, the text stays (`substitute_eq_of_none`). A rule that does not look back goes on behind a
match as if the rest were the whole text (`Rule.Blind.substituteFrom_eq`).
-/

set_option autoImplicit false

namespace ChangeLens.Text

/-! ### Places without a match -/

/-- Where no match starts in it, a text is copied. -/
theorem substituteFrom_copy {rule : Rule} {cs after : List Char} (before : Option Char)
    (h : ∀ a b, cs = a ++ b → b ≠ [] → rule (a.getLast?.or before) (b ++ after) = none) :
    substituteFrom rule before 0 (cs ++ after) =
      cs ++ substituteFrom rule (cs.getLast?.or before) 0 after := by
  induction cs generalizing before with
  | nil => rfl
  | cons c cs ih =>
    have hhere := h [] (c :: cs) rfl (List.cons_ne_nil c cs)
    rw [List.cons_append] at hhere ⊢
    rw [substituteFrom, show rule before (c :: (cs ++ after)) = none from hhere]
    have hrest := ih (some c) fun a b hab hb => by
      have hlater := h (c :: a) b (by rw [hab, List.cons_append]) hb
      rwa [List.getLast?_cons, Option.some_or, ← Option.or_some] at hlater
    rw [hrest, List.getLast?_cons, Option.some_or, ← Option.or_some, List.cons_append]

/-- Where no match starts, the text stays. -/
theorem substitute_eq_of_none {rule : Rule} {cs : List Char}
    (h : ∀ a b, cs = a ++ b → b ≠ [] → rule a.getLast? b = none) : substitute rule cs = cs := by
  have hcopy : substituteFrom rule none 0 (cs ++ []) =
      cs ++ substituteFrom rule (cs.getLast?.or none) 0 [] := by
    refine substituteFrom_copy none fun a b hab hb => ?_
    rw [Option.or_none, List.append_nil]
    exact h a b hab hb
  rwa [substituteFrom, List.append_nil] at hcopy

/-! ### Rules that look ahead only -/

/-- The rule does not look at the character before a place. -/
def Rule.Blind (rule : Rule) : Prop :=
  ∀ before cs, rule before cs = rule none cs

/-- Such a rule goes on behind a match as it would on the rest alone. -/
theorem Rule.Blind.substituteFrom_eq {rule : Rule} (h : rule.Blind) (before : Option Char)
    (skip : Nat) (cs : List Char) :
    substituteFrom rule before skip cs = substitute rule (cs.drop skip) := by
  induction cs generalizing before skip with
  | nil => rw [substituteFrom, List.drop_nil, substitute, substituteFrom]
  | cons c rest ih =>
    cases skip with
    | zero =>
      show substituteFrom rule before 0 (c :: rest) = substituteFrom rule none 0 (c :: rest)
      rw [substituteFrom, substituteFrom, h before]
    | succ skip =>
      show substituteFrom rule (some c) skip rest = substitute rule (rest.drop skip)
      exact ih (some c) skip

/-- Where no rule applies, the sign stays. -/
theorem Rule.Blind.substitute_cons {rule : Rule} (h : rule.Blind) {c : Char} {rest : List Char}
    (hnone : rule none (c :: rest) = none) :
    substitute rule (c :: rest) = c :: substitute rule rest := by
  show substituteFrom rule none 0 (c :: rest) = _
  rw [substituteFrom, hnone]
  exact congrArg (c :: ·) (h.substituteFrom_eq (some c) 0 rest)

/-- Where the rule applies, what it found is replaced, and the rest is rewritten on its own. -/
theorem Rule.Blind.substitute_append {rule : Rule} (h : rule.Blind) {found put rest : List Char}
    (hfound : found ≠ []) (hsome : rule none (found ++ rest) = some (found.length, put)) :
    substitute rule (found ++ rest) = put ++ substitute rule rest := by
  obtain ⟨c, more, rfl⟩ := List.exists_cons_of_ne_nil hfound
  show substituteFrom rule none 0 (c :: (more ++ rest)) = _
  rw [List.cons_append, List.length_cons] at hsome
  rw [substituteFrom, hsome]
  show put ++ substituteFrom rule (some c) more.length (more ++ rest) = _
  rw [h.substituteFrom_eq, List.drop_left]

end ChangeLens.Text
