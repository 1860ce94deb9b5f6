import ChangeLens.Proofs.PatternFaults
import ChangeLens.Run
import Mathlib.Data.List.Infix

/-!
# `ChangeLens.Proofs.FileSelection`: which files a run looks at

`Text.Glob.Fits` is what the elements of a pattern mean: a text fits them if it can be cut into one
piece for each element. `wildcardMatch_iff` says that the matcher, which tries the ends of a `*` one
after the other, finds such a cut whenever there is one.

* `matchFrom_anyFolder`: a leading `**/` stands for no folder or for any folders. In the second case
  the rest of the pattern has to fit what follows some slash, and `*` crosses slashes there as
  everywhere.
* `matchFrom_ending`, `matchFrom_part` and `matchFrom_folder` are the three forms that the
  patterns of the configuration have: an ending, a part anywhere and a folder at the start.
* `selection_by_name` puts this together.
-/

set_option autoImplicit false

namespace ChangeLens

namespace Text.Glob

variable {tokens : List GlobToken} {cs text : List Char}

/-! ### What patterns mean -/

/-- A text fits the elements of a pattern. -/
inductive Fits : List GlobToken → List Char → Prop where
  /-- No elements fit the empty text. -/
  | nil : Fits [] []
  /-- A character fits itself. -/
  | char {tokens : List GlobToken} {cs : List Char} (c : Char) (h : Fits tokens cs) :
      Fits (.char c :: tokens) (c :: cs)
  /-- `?` fits any one character. -/
  | anyChar {tokens : List GlobToken} {cs : List Char} (c : Char) (h : Fits tokens cs) :
      Fits (.anyChar :: tokens) (c :: cs)
  /-- `*` fits any text. -/
  | anyText {tokens : List GlobToken} {cs : List Char} (front : List Char) (h : Fits tokens cs) :
      Fits (.anyText :: tokens) (front ++ cs)
  /-- Brackets fit one character, which is in one of the ranges exactly if they are not negated. -/
  | oneOf {tokens : List GlobToken} {cs : List Char} {negated : Bool} {ranges : List (Char × Char)}
      (c : Char) (hc : (∃ range ∈ ranges, range.1 ≤ c ∧ c ≤ range.2) ↔ negated = false)
      (h : Fits tokens cs) : Fits (.oneOf negated ranges :: tokens) (c :: cs)

/-- The search for the end of a `*` finds every end that there is. -/
theorem acceptsAfterAny_iff {rest : List Char → Bool} :
    acceptsAfterAny rest cs = true ↔ ∃ front back, cs = front ++ back ∧ rest back = true := by
  induction cs with
  | nil =>
    rw [acceptsAfterAny]
    constructor
    · exact fun h => ⟨[], [], rfl, h⟩
    · rintro ⟨front, back, heq, h⟩
      obtain ⟨-, rfl⟩ := List.append_eq_nil_iff.1 heq.symm
      exact h
  | cons c cs ih =>
    rw [acceptsAfterAny, Bool.or_eq_true, ih]
    constructor
    · -- The star stops in front of the next sign, or it takes that sign and goes on.
      rintro (h | ⟨front, back, rfl, h⟩)
      · exact ⟨[], c :: cs, rfl, h⟩
      · exact ⟨c :: front, back, rfl, h⟩
    · rintro ⟨front, back, heq, h⟩
      cases front with
      | nil => exact .inl (by rwa [heq])
      | cons d front =>
        obtain ⟨-, rfl⟩ := List.cons.inj heq
        exact .inr ⟨front, back, rfl, h⟩

/-- A sign fits a class if it is found there, or if it is not and the class is negated. -/
theorem bne_iff (found negated : Bool) :
    (found != negated) = true ↔ (found = true ↔ negated = false) := by
  cases found <;> cases negated <;> decide

/-- The matcher is right: it accepts exactly the texts that fit. -/
theorem accepts_iff : accepts tokens cs = true ↔ Fits tokens cs := by
  induction tokens generalizing cs with
  | nil =>
    rw [accepts, List.isEmpty_iff]
    constructor
    · rintro rfl
      exact .nil
    · intro h
      cases h
      rfl
  | cons token tokens ih =>
    -- One case for each kind of token; the three that stand for a sign all fail at the end of the
    -- text.
    cases token with
    | anyText =>
      rw [accepts, acceptsAfterAny_iff]
      constructor
      · rintro ⟨front, back, rfl, h⟩
        exact .anyText front (ih.1 h)
      · intro h
        cases h with
        | anyText front h => exact ⟨front, _, rfl, ih.2 h⟩
    | anyChar =>
      cases cs with
      | nil => exact iff_of_false Bool.false_ne_true (fun h => by cases h)
      | cons c cs =>
        rw [accepts, ih]
        constructor
        · exact .anyChar c
        · intro h
          cases h with
          | anyChar _ h => exact h
    | char c =>
      cases cs with
      | nil => exact iff_of_false Bool.false_ne_true (fun h => by cases h)
      | cons d cs =>
        rw [accepts, Bool.and_eq_true, beq_iff_eq, ih]
        constructor
        · rintro ⟨rfl, h⟩
          exact .char c h
        · intro h
          cases h with
          | char _ h => exact ⟨rfl, h⟩
    | oneOf negated ranges =>
      cases cs with
      | nil => exact iff_of_false Bool.false_ne_true (fun h => by cases h)
      | cons c cs =>
        have hin : (ranges.any fun range => range.1 ≤ c && c ≤ range.2) = true ↔
            ∃ range ∈ ranges, range.1 ≤ c ∧ c ≤ range.2 := by
          simp [List.any_eq_true]
        have haccepts : accepts (.oneOf negated ranges :: tokens) (c :: cs) =
            (((ranges.any fun range => range.1 ≤ c && c ≤ range.2) != negated) &&
              accepts tokens cs) := rfl
        rw [haccepts, Bool.and_eq_true, bne_iff, hin, ih]
        constructor
        · exact fun h => .oneOf c h.1 h.2
        · intro h
          cases h with
          | oneOf _ hc h => exact ⟨hc, h⟩

/-- A pattern matches the texts that fit its elements. -/
theorem wildcardMatch_iff {pattern : List Char} :
    wildcardMatch cs pattern = true ↔ Fits (tokensFrom 0 pattern) cs :=
  accepts_iff

/-! ### Elements of which a text consists -/

/-- A star stands for any text in front. -/
theorem fits_anyText_iff :
    Fits (.anyText :: tokens) cs ↔ ∃ front back, cs = front ++ back ∧ Fits tokens back := by
  rw [← accepts_iff, accepts, acceptsAfterAny_iff]
  simp only [accepts_iff]

/-- Two stars say no more than one. -/
theorem fits_anyText_anyText :
    Fits (.anyText :: .anyText :: tokens) cs ↔ Fits (.anyText :: tokens) cs := by
  rw [fits_anyText_iff]
  constructor
  · rintro ⟨front, back, rfl, h⟩
    obtain ⟨middle, rest, rfl, hrest⟩ := fits_anyText_iff.1 h
    exact fits_anyText_iff.2 ⟨front ++ middle, rest, (List.append_assoc _ _ _).symm, hrest⟩
  · exact fun h => ⟨[], cs, rfl, h⟩

/-- Plain signs stand for themselves. -/
theorem fits_chars_iff :
    Fits (text.map .char ++ tokens) cs ↔ ∃ back, cs = text ++ back ∧ Fits tokens back := by
  induction text generalizing cs with
  | nil => simp
  | cons c text ih =>
    constructor
    · intro h
      cases h with
      | char _ htext =>
        obtain ⟨back, rfl, hback⟩ := ih.1 htext
        exact ⟨back, rfl, hback⟩
    · rintro ⟨back, rfl, h⟩
      exact .char c (ih.2 ⟨back, rfl, h⟩)

/-- A star alone fits everything. -/
theorem fits_anyText : Fits [.anyText] cs :=
  List.append_nil cs ▸ .anyText cs .nil

/-- A text without the characters that mean something else in a pattern. -/
def IsLiteral (text : List Char) : Prop :=
  ∀ c ∈ text, c ≠ '*' ∧ c ≠ '?' ∧ c ≠ '['

instance (text : List Char) : Decidable (IsLiteral text) :=
  List.decidableBAll (fun c => c ≠ '*' ∧ c ≠ '?' ∧ c ≠ '[') text

/-- Plain signs of a pattern are read as themselves. -/
theorem tokensFrom_literal (h : IsLiteral text) (pattern : List Char) :
    tokensFrom 0 (text ++ pattern) = text.map .char ++ tokensFrom 0 pattern := by
  induction text with
  | nil => rfl
  | cons c text ih =>
    obtain ⟨hstar, hmark, hopen⟩ := h c List.mem_cons_self
    rw [List.cons_append, tokensFrom, if_neg hstar, if_neg hmark, if_neg hopen,
      ih fun d hd => h d (List.mem_cons_of_mem c hd)]
    rfl

/-- A star of a pattern is read as any text. -/
theorem tokensFrom_star (pattern : List Char) :
    tokensFrom 0 ('*' :: pattern) = .anyText :: tokensFrom 0 pattern := by
  rw [tokensFrom, if_pos rfl]

/-! ### A leading `**/` -/

/-- Behind a `**/` the rest of the pattern has to fit what follows some slash. -/
theorem matchFrom_folders {pattern : List Char} :
    wildcardMatch cs ('*' :: '*' :: '/' :: pattern) = true ↔
      ∃ before after, cs = before ++ '/' :: after ∧ Fits (tokensFrom 0 pattern) after := by
  have htokens : tokensFrom 0 ('*' :: '*' :: '/' :: pattern) =
      .anyText :: .anyText :: (['/'].map .char ++ tokensFrom 0 pattern) := by
    rw [tokensFrom_star, tokensFrom_star, ← tokensFrom_literal (by simp [IsLiteral])]
    rfl
  rw [wildcardMatch_iff, htokens, fits_anyText_anyText, fits_anyText_iff]
  constructor
  · rintro ⟨before, back, rfl, hback⟩
    obtain ⟨after, rfl, hafter⟩ := fits_chars_iff.1 hback
    exact ⟨before, after, rfl, hafter⟩
  · rintro ⟨before, after, rfl, h⟩
    exact ⟨before, '/' :: after, rfl, fits_chars_iff.2 ⟨after, rfl, h⟩⟩

/-- A leading `**/` stands for no folder or for any folders. -/
theorem matchFrom_anyFolder {pattern : List Char} :
    matchFrom cs ('*' :: '*' :: '/' :: pattern) = true ↔
      matchFrom cs pattern = true ∨
        ∃ before after, cs = before ++ '/' :: after ∧ Fits (tokensFrom 0 pattern) after := by
  rw [matchFrom, Bool.or_eq_true, matchFrom_folders, or_comm]

/-! ### Endings, parts and folders -/

/-- Before a star that is no part of another `**/`, a `**/` says nothing more. -/
theorem matchFrom_anyFolder_star {pattern : List Char} (h : pattern.head? ≠ some '*') :
    matchFrom cs ('*' :: '*' :: '/' :: '*' :: pattern) = true ↔
      Fits (.anyText :: tokensFrom 0 pattern) cs := by
  have hplain : matchFrom cs ('*' :: pattern) = wildcardMatch cs ('*' :: pattern) := by
    rw [matchFrom]
    rintro rest ⟨⟩
    exact h rfl
  rw [matchFrom_anyFolder, hplain, wildcardMatch_iff, tokensFrom_star]
  refine ⟨fun hfits => hfits.elim id ?_, .inl⟩
  rintro ⟨before, after, rfl, hafter⟩
  obtain ⟨front, back, rfl, hback⟩ := fits_anyText_iff.1 hafter
  refine fits_anyText_iff.2 ⟨before ++ '/' :: front, back, ?_, hback⟩
  rw [List.append_assoc, List.cons_append]

/-- Plain signs do not begin with a star. -/
theorem IsLiteral.head?_ne (h : IsLiteral text) : text.head? ≠ some '*' := fun hstar =>
  (h '*' (List.mem_of_head? hstar)).1 rfl

/-- A pattern for an ending. -/
theorem matchFrom_ending (h : IsLiteral text) :
    matchFrom cs ('*' :: '*' :: '/' :: '*' :: text) = true ↔ text <:+ cs := by
  have htokens : tokensFrom 0 text = text.map .char ++ [] := by
    simpa [tokensFrom] using tokensFrom_literal h []
  rw [matchFrom_anyFolder_star h.head?_ne, htokens, fits_anyText_iff]
  constructor
  · rintro ⟨front, back, rfl, hback⟩
    obtain ⟨last, rfl, hlast⟩ := fits_chars_iff.1 hback
    cases hlast
    rw [List.append_nil]
    exact List.suffix_append front text
  · rintro ⟨front, rfl⟩
    exact ⟨front, _, rfl, fits_chars_iff.2 ⟨[], (List.append_nil _).symm, .nil⟩⟩

/-- A pattern for a part anywhere. -/
theorem matchFrom_part (h : IsLiteral text) (hne : text ≠ []) :
    matchFrom cs ('*' :: '*' :: '/' :: '*' :: (text ++ ['*'])) = true ↔ text <:+: cs := by
  have hhead : (text ++ ['*']).head? ≠ some '*' := by
    rw [List.head?_append_of_ne_nil _ hne]
    exact h.head?_ne
  rw [matchFrom_anyFolder_star hhead, tokensFrom_literal h, fits_anyText_iff]
  constructor
  · rintro ⟨front, back, rfl, hback⟩
    obtain ⟨last, rfl, -⟩ := fits_chars_iff.1 hback
    exact ⟨front, last, List.append_assoc _ _ _⟩
  · rintro ⟨front, back, rfl⟩
    exact ⟨front, _, List.append_assoc _ _ _, fits_chars_iff.2 ⟨back, rfl, fits_anyText⟩⟩

/-- A pattern for a folder at the start. -/
theorem matchFrom_folder (h : IsLiteral text) (hne : text ≠ []) :
    matchFrom cs (text ++ ['*', '*']) = true ↔ text <+: cs := by
  have hplain : matchFrom cs (text ++ ['*', '*']) = wildcardMatch cs (text ++ ['*', '*']) := by
    rw [matchFrom]
    intro rest heq
    apply h.head?_ne
    rw [← List.head?_append_of_ne_nil text hne, heq]
    rfl
  have htokens : tokensFrom 0 (text ++ ['*', '*']) = text.map .char ++ [.anyText, .anyText] :=
    tokensFrom_literal h ['*', '*']
  rw [hplain, wildcardMatch_iff, htokens, fits_chars_iff]
  constructor
  · rintro ⟨back, rfl, -⟩
    exact List.prefix_append _ _
  · rintro ⟨back, rfl⟩
    exact ⟨back, rfl, fits_anyText_anyText.2 fits_anyText⟩

end Text.Glob

open Text.Glob

/-! ### The patterns of the configuration -/

/-- A file is looked at if it is included and not excluded, once both can be decided. -/
theorem Config.selects_eq_ok {config : Config} {path : String} {included excluded : Bool}
    (hincluded : config.includes.matches path = .ok included)
    (hexcluded : config.excludes.matches path = .ok excluded) :
    config.selects path = .ok (included && !excluded) := by
  refine bind_eq_ok_iff.2 ⟨included, hincluded, ?_⟩
  cases included with
  | false => rfl
  | true =>
    rw [if_pos rfl, hexcluded]
    rfl

section
variable (path text : String)

/-- A pattern for an ending. -/
theorem globMatch_ending (h : IsLiteral text.toList) :
    Text.globMatch path ("**/*" ++ text) = true ↔ text.toList <:+ path.toList := by
  rw [Text.globMatch, String.toList_append]
  exact matchFrom_ending h

/-- A pattern for a part anywhere. -/
theorem globMatch_part (h : IsLiteral text.toList) (hne : text.toList ≠ []) :
    Text.globMatch path ("**/*" ++ text ++ "*") = true ↔ text.toList <:+: path.toList := by
  rw [Text.globMatch, String.toList_append, String.toList_append, List.append_assoc]
  exact matchFrom_part h hne

/-- A pattern for a folder at the start. -/
theorem globMatch_folder (h : IsLiteral text.toList) (hne : text.toList ≠ []) :
    Text.globMatch path (text ++ "**") = true ↔ text.toList <+: path.toList := by
  rw [Text.globMatch, String.toList_append]
  exact matchFrom_folder h hne

/-- The default configuration includes four endings. -/
theorem includes_default :
    ∃ included, ({} : Config).includes.matches path = .ok included ∧
      (included = true ↔
        ∃ ending ∈ [".ts", ".tsx", ".js", ".jsx"], ending.toList <:+ path.toList) := by
  have hpatterns : ["**/*.ts", "**/*.tsx", "**/*.js", "**/*.jsx"] =
      [".ts", ".tsx", ".js", ".jsx"].map ("**/*" ++ ·) := by
    decide
  have hliteral : ∀ ending ∈ [".ts", ".tsx", ".js", ".jsx"], IsLiteral ending.toList := by
    decide
  refine ⟨_, Patterns.matches_ofTexts _ path, ?_⟩
  rw [List.any_eq_true, hpatterns]
  simp only [List.mem_map, exists_exists_and_eq_and]
  exact exists_congr fun ending => and_congr_right fun h =>
    globMatch_ending path ending (hliteral ending h)

/-- The default configuration excludes an ending, two parts and three folders. -/
theorem excludes_default :
    ∃ excluded, ({} : Config).excludes.matches path = .ok excluded ∧
      (excluded = true ↔
        ".d.ts".toList <:+ path.toList ∨
          (∃ part ∈ [".test.", ".spec."], part.toList <:+: path.toList) ∨
          ∃ folder ∈ ["node_modules/", "dist/", "build/"], folder.toList <+: path.toList) := by
  have hpatterns : ["node_modules/**", "**/*.test.*", "**/*.spec.*", "**/*.d.ts", "dist/**",
      "build/**"] = ["node_modules/" ++ "**", "**/*" ++ ".test." ++ "*", "**/*" ++ ".spec." ++ "*",
      "**/*" ++ ".d.ts", "dist/" ++ "**", "build/" ++ "**"] := by
    simp
  have htest := globMatch_part path ".test." (by decide) (by decide)
  have hspec := globMatch_part path ".spec." (by decide) (by decide)
  have hmodules := globMatch_folder path "node_modules/" (by decide) (by decide)
  have hdist := globMatch_folder path "dist/" (by decide) (by decide)
  have hbuild := globMatch_folder path "build/" (by decide) (by decide)
  refine ⟨_, Patterns.matches_ofTexts _ path, ?_⟩
  rw [List.any_eq_true, hpatterns]
  simp only [List.mem_cons, List.not_mem_nil, or_false, or_and_right, exists_or, exists_eq_left]
  rw [htest, hspec, hmodules, hdist, hbuild, globMatch_ending path ".d.ts" (by decide)]
  simp only [or_assoc, or_left_comm, or_comm]

end

/-- The matcher accepts what fits a pattern. A leading `**/` lets the rest of a pattern start behind
any slash or at the start of the path, and under the default configuration the files that are looked
at are those with one of four endings, but no declarations, no tests and nothing in the folders of
dependencies and of built files. -/
theorem selection_by_name :
    (∀ cs pattern : List Char, wildcardMatch cs pattern = true ↔ Fits (tokensFrom 0 pattern) cs) ∧
    (∀ path pattern : String,
      Text.globMatch path ("**/" ++ pattern) = true ↔
        Text.globMatch path pattern = true ∨ ∃ before after : String,
          path = before ++ "/" ++ after ∧ Fits (tokensFrom 0 pattern.toList) after.toList) ∧
    ∀ path : String, ∃ chosen, ({} : Config).selects path = .ok chosen ∧
      (chosen = true ↔
        (∃ ending ∈ [".ts", ".tsx", ".js", ".jsx"], ending.toList <:+ path.toList) ∧
        ¬ ".d.ts".toList <:+ path.toList ∧
        (∀ part ∈ [".test.", ".spec."], ¬ part.toList <:+: path.toList) ∧
        ∀ folder ∈ ["node_modules/", "dist/", "build/"], ¬ folder.toList <+: path.toList) := by
  refine ⟨fun _ _ => wildcardMatch_iff, ?_, ?_⟩
  · intro path pattern
    rw [Text.globMatch, Text.globMatch, String.toList_append]
    refine matchFrom_anyFolder.trans (or_congr_right ?_)
    constructor
    · rintro ⟨before, after, hpath, hfits⟩
      refine ⟨.ofList before, .ofList after, ?_, by rwa [String.toList_ofList]⟩
      rw [← String.toList_inj, hpath]
      simp
    · rintro ⟨before, after, rfl, hfits⟩
      exact ⟨before.toList, after.toList, by simp, hfits⟩
  · -- The default patterns are texts, so neither list breaks down and the two answers combine.
    intro path
    obtain ⟨included, hincluded, hendings⟩ := includes_default path
    obtain ⟨excluded, hexcluded, hothers⟩ := excludes_default path
    refine ⟨_, Config.selects_eq_ok hincluded hexcluded, ?_⟩
    rw [Bool.and_eq_true, Bool.not_eq_true', ← Bool.not_eq_true, hendings, hothers]
    push Not
    rfl

end ChangeLens
