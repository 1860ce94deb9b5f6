import ChangeLens.Analyzer.Registry
import ChangeLens.Proofs.Selection

/-!
# `ChangeLens.Proofs.PatternFaults`: patterns that are no texts

A configuration may list patterns of any type, and a pattern is looked at only when its turn comes. So
a match fails exactly if none of the texts in front of the first other pattern fits
(`matches_eq_error_iff`), and never when all patterns are texts (`matches_ofTexts`).

Matches are made one after the other: of the files of a run, of the calls of a version, of the modules
that are imported now. The laws of `List.flatMapM` say that such a traversal succeeds exactly if each
step does, and that its result is then put together from theirs.

Of all analyzers only two match anything. `compare_eq_none_iff` says when they break down.
-/

set_option autoImplicit false

namespace ChangeLens

/-! ### Matching -/

namespace Patterns

/-- All patterns are texts. -/
def AreTexts (patterns : Patterns) : Prop :=
  ∃ texts, patterns = .ofTexts texts

/-- Patterns that are texts can all be matched. -/
theorem matches_ofTexts (texts : List String) (path : String) :
    (ofTexts texts).matches path = .ok (texts.any (Text.globMatch path)) := by
  induction texts with
  | nil => rfl
  | cons text texts ih =>
    show (if Text.globMatch path text = true then .ok true else (ofTexts texts).matches path) = _
    rw [ih, List.any_cons]
    cases Text.globMatch path text <;> rfl

/-- Among patterns that are texts no match fails. -/
theorem AreTexts.matches_ne_error {patterns : Patterns} (h : patterns.AreTexts) (path : String)
    (fault : PatternFault) : patterns.matches path ≠ .error fault := by
  obtain ⟨texts, rfl⟩ := h
  rw [matches_ofTexts]
  intro heq
  cases heq

/-- A match fails on the first pattern that is no text, and only when nothing in front of it fits. -/
theorem matches_eq_error_iff {patterns : Patterns} {path : String} {fault : PatternFault} :
    patterns.matches path = .error fault ↔
      ∃ texts rest, patterns = ofTexts texts ++ fault.pattern :: rest ∧
        fault.pattern.text? = none ∧ ∀ text ∈ texts, Text.globMatch path text = false := by
  induction patterns with
  | nil =>
    constructor
    · intro h
      cases h
    · rintro ⟨texts, rest, heq, -⟩
      cases texts <;> cases heq
  | cons pattern patterns ih =>
    -- A text is passed over if it does not fit; anything else is the fault itself.
    cases pattern with
    | text pattern =>
      rw [Patterns.matches]
      constructor
      · intro h
        split at h
        · cases h
        · rename_i hfits
          obtain ⟨texts, rest, rfl, hnone, hall⟩ := ih.1 h
          refine ⟨pattern :: texts, rest, rfl, hnone, ?_⟩
          exact List.forall_mem_cons.2 ⟨Bool.eq_false_iff.2 hfits, hall⟩
      · rintro ⟨texts, rest, heq, hnone, hall⟩
        cases texts with
        | nil =>
          obtain ⟨hpattern, -⟩ := List.cons.inj heq
          rw [← hpattern] at hnone
          cases hnone
        | cons text texts =>
          obtain ⟨hpattern, hrest⟩ := List.cons.inj heq
          cases hpattern
          rw [if_neg (by rw [hall pattern List.mem_cons_self]; exact Bool.false_ne_true)]
          exact ih.2 ⟨texts, rest, hrest, hnone, fun text htext => hall text (.tail _ htext)⟩
    -- A pattern that is no text is the fault of the list, and no text stands in front of it.
    | _ =>
      constructor
      · intro h
        cases h
        exact ⟨[], patterns, rfl, rfl, List.forall_mem_nil _⟩
      · rintro ⟨texts, rest, heq, -⟩
        cases texts with
        | nil =>
          obtain ⟨hpattern, -⟩ := List.cons.inj heq
          show Except.error ⟨_⟩ = Except.error fault
          rw [hpattern]
        | cons text texts => cases heq

end Patterns

/-! ### Traversals that can fail -/

section Traversals

variable {ε α β : Type}

/-- What comes after a step that can fail sees the result of that step. -/
theorem bind_eq_ok_iff {step : Except ε α} {next : α → Except ε β} {result : β} :
    step >>= next = .ok result ↔ ∃ value, step = .ok value ∧ next value = .ok result := by
  cases step with
  | error fault =>
    constructor
    · intro h
      cases h
    · rintro ⟨value, hvalue, -⟩
      cases hvalue
  | ok value =>
    constructor
    · intro h
      exact ⟨value, rfl, h⟩
    · rintro ⟨value, hvalue, h⟩
      cases hvalue
      exact h

variable {f : α → Except ε (List β)} {items : List α} {results : List β}

/-- The first step comes first, and the others only when it succeeds. -/
theorem flatMapM_cons_eq_ok_iff {item : α} :
    (item :: items).flatMapM f = .ok results ↔
      ∃ part parts, f item = .ok part ∧ items.flatMapM f = .ok parts ∧ results = part ++ parts := by
  rw [List.flatMapM_cons, bind_eq_ok_iff]
  simp only [bind_eq_ok_iff]
  constructor
  · rintro ⟨part, hpart, parts, hparts, hresults⟩
    cases hresults
    exact ⟨part, parts, hpart, hparts, rfl⟩
  · rintro ⟨part, parts, hpart, hparts, rfl⟩
    exact ⟨part, hpart, parts, hparts, rfl⟩

/-- Each result comes from a step. -/
theorem exists_of_mem_flatMapM (h : items.flatMapM f = .ok results) {result : β}
    (hresult : result ∈ results) : ∃ item ∈ items, ∃ part, f item = .ok part ∧ result ∈ part := by
  induction items generalizing results with
  | nil =>
    cases h
    cases hresult
  | cons item items ih =>
    obtain ⟨part, parts, hpart, hparts, rfl⟩ := flatMapM_cons_eq_ok_iff.1 h
    rcases List.mem_append.1 hresult with hmem | hmem
    · exact ⟨item, List.mem_cons_self, part, hpart, hmem⟩
    · obtain ⟨other, hother, hrest⟩ := ih hparts hmem
      exact ⟨other, List.mem_cons_of_mem _ hother, hrest⟩

/-- A traversal has nothing to show exactly if no step has. -/
theorem flatMapM_eq_ok_nil_iff : items.flatMapM f = .ok [] ↔ ∀ item ∈ items, f item = .ok [] := by
  induction items with
  | nil => exact ⟨fun _ => List.forall_mem_nil _, fun _ => rfl⟩
  | cons item items ih =>
    rw [flatMapM_cons_eq_ok_iff, List.forall_mem_cons, ← ih]
    constructor
    · rintro ⟨part, parts, hpart, hparts, hnil⟩
      obtain ⟨rfl, rfl⟩ := List.append_eq_nil_iff.1 hnil.symm
      exact ⟨hpart, hparts⟩
    · rintro ⟨hpart, hparts⟩
      exact ⟨[], [], hpart, hparts, rfl⟩

/-- A traversal succeeds exactly if every step does. -/
theorem flatMapM_isOk_iff :
    (∃ results, items.flatMapM f = .ok results) ↔ ∀ item ∈ items, ∃ part, f item = .ok part := by
  induction items with
  | nil => exact ⟨fun _ => List.forall_mem_nil _, fun _ => ⟨[], rfl⟩⟩
  | cons item items ih =>
    simp only [flatMapM_cons_eq_ok_iff, List.forall_mem_cons, ← ih]
    constructor
    · rintro ⟨_, part, parts, hpart, hparts, -⟩
      exact ⟨⟨part, hpart⟩, parts, hparts⟩
    · rintro ⟨⟨part, hpart⟩, parts, hparts⟩
      exact ⟨part ++ parts, part, parts, hpart, hparts, rfl⟩

end Traversals

/-! ### The comparisons that break down -/

/-- Some call of a version cannot be matched with the patterns of side effects. -/
def Config.FailsOnCalls (config : Config) (head : Model) : Prop :=
  ∃ call ∈ head.calls, ∃ fault, config.sideEffectCallees.matches call.path = .error fault

/-- Some module that only the head version imports cannot be matched with the patterns of side
effects. -/
def Config.FailsOnImports (config : Config) (base head : Model) : Prop :=
  ∃ site ∈ Analyzer.valueImports head,
    Analyzer.importsModule (Analyzer.valueImports base) site.moduleName = false ∧
      ∃ fault, config.sideEffectModules.matches site.moduleName = .error fault

namespace Analyzer

variable (target : Target) (base head : Model)

variable {target base} in
/-- What is reported about a call when its callee can be matched. -/
theorem sideEffectChanges_eq_ok {call : CallSite} {records : List Record}
    (h : sideEffectChanges target base call = .ok records) :
    ∃ configured, target.config.sideEffectCallees.matches call.path = .ok configured ∧
      records =
        if configured && !base.calls.any (isNear call) then [sideEffectAdded target call] else [] := by
  obtain ⟨configured, hconfigured, h⟩ := bind_eq_ok_iff.1 h
  cases h
  exact ⟨configured, hconfigured, rfl⟩

variable {target} in
/-- What is reported about a new module when its name can be matched. -/
theorem moduleAdded_eq_ok {site : ImportSite} {records : List Record}
    (h : moduleAdded target site = .ok records) :
    ∃ configured, target.config.sideEffectModules.matches site.moduleName = .ok configured ∧
      records =
        importRecord target .importAdded .low site s!"Import added: {site.moduleName}" none ::
          if configured then
            [importRecord target .sideEffectImportAdded .medium site
              s!"Side-effect import added: {site.moduleName}" none]
          else [] := by
  obtain ⟨configured, hconfigured, h⟩ := bind_eq_ok_iff.1 h
  cases h
  exact ⟨configured, hconfigured, rfl⟩

/-- The comparison of side effects succeeds exactly if every call can be matched. -/
theorem compareSideEffects_isOk_iff :
    (∃ records, compareSideEffects target base head = .ok records) ↔
      ¬ target.config.FailsOnCalls head := by
  have hcall (call : CallSite) : (∃ part, sideEffectChanges target base call = .ok part) ↔
      ¬ ∃ fault, target.config.sideEffectCallees.matches call.path = .error fault := by
    unfold sideEffectChanges
    cases target.config.sideEffectCallees.matches call.path <;> simp [bind, Except.bind]
  simp only [compareSideEffects, flatMapM_isOk_iff, hcall, Config.FailsOnCalls, not_exists, not_and]

/-- What became of the modules that are imported now decides whether imports can be compared. -/
theorem compareImports_eq :
    compareImports target base head =
      ((firstOfEach ImportSite.moduleName (valueImports head)).flatMapM
        (currentModule target (valueImports base) (valueImports head))).map fun current =>
          current ++ modulesRemoved target (valueImports base) (valueImports head) ++
            orderChanges target (valueImports base) (valueImports head) := by
  show (List.flatMapM _ _ >>= fun current => Except.ok _) = _
  cases (firstOfEach ImportSite.moduleName (valueImports head)).flatMapM
    (currentModule target (valueImports base) (valueImports head)) <;> rfl

variable {target base head} in
/-- What is reported about imports when all new modules can be matched. -/
theorem compareImports_eq_ok {records : List Record}
    (h : compareImports target base head = .ok records) :
    ∃ current,
      (firstOfEach ImportSite.moduleName (valueImports head)).flatMapM
        (currentModule target (valueImports base) (valueImports head)) = .ok current ∧
      records = current ++ modulesRemoved target (valueImports base) (valueImports head) ++
        orderChanges target (valueImports base) (valueImports head) := by
  obtain ⟨current, hcurrent, h⟩ := bind_eq_ok_iff.1 h
  cases h
  exact ⟨current, hcurrent, rfl⟩

variable {target base head} in
/-- The comparison of imports succeeds with nothing to report exactly if each of its three parts
does. -/
theorem compareImports_eq_ok_nil_iff :
    compareImports target base head = .ok [] ↔
      ((firstOfEach ImportSite.moduleName (valueImports head)).flatMapM
          (currentModule target (valueImports base) (valueImports head)) = .ok [] ∧
        modulesRemoved target (valueImports base) (valueImports head) = []) ∧
      orderChanges target (valueImports base) (valueImports head) = [] := by
  rw [compareImports_eq]
  cases (firstOfEach ImportSite.moduleName (valueImports head)).flatMapM
    (currentModule target (valueImports base) (valueImports head)) <;> simp [Except.map, and_assoc]

/-- The comparison of imports succeeds exactly if every new module can be matched. -/
theorem compareImports_isOk_iff :
    (∃ records, compareImports target base head = .ok records) ↔
      ¬ target.config.FailsOnImports base head := by
  -- The two other parts of the comparison cannot fail.
  have hcurrent : (∃ records, compareImports target base head = .ok records) ↔
      ∃ records, (firstOfEach ImportSite.moduleName (valueImports head)).flatMapM
        (currentModule target (valueImports base) (valueImports head)) = .ok records := by
    rw [compareImports_eq]
    cases (firstOfEach ImportSite.moduleName (valueImports head)).flatMapM
      (currentModule target (valueImports base) (valueImports head)) <;> simp [Except.map]
  -- The patterns are read only for a module that is new.
  have hsite (site : ImportSite) :
      (∃ part, currentModule target (valueImports base) (valueImports head) site = .ok part) ↔
        (importsModule (valueImports base) site.moduleName = false →
          ¬ ∃ fault, target.config.sideEffectModules.matches site.moduleName = .error fault) := by
    unfold currentModule moduleAdded
    cases importsModule (valueImports base) site.moduleName <;>
      cases target.config.sideEffectModules.matches site.moduleName <;> simp [bind, Except.bind]
  rw [hcurrent, flatMapM_isOk_iff]
  simp only [hsite, Config.FailsOnImports, not_exists, not_and]
  constructor
  · -- Only the first import of a module is looked at, but all of them have its name.
    intro hall site hmem
    obtain ⟨first, hfirst, hname⟩ := exists_mem_firstOfEach ImportSite.moduleName hmem
    exact hname ▸ hall first hfirst
  · intro hall site hmem
    exact hall site (mem_of_mem_firstOfEach hmem)

/-- All analyzers but two always come to an end. -/
theorem eq_of_of_mem_all : ∀ analyzer ∈ all,
    analyzer = imports ∨ analyzer = sideEffects ∨
      ∃ comparison, analyzer = .of analyzer.name analyzer.group comparison := by
  simp only [all, core, structural, List.cons_append, List.nil_append, List.forall_mem_cons,
    List.not_mem_nil, false_implies, implies_true, and_true]
  exact ⟨.inr (.inr ⟨_, rfl⟩), .inr (.inr ⟨_, rfl⟩), .inr (.inr ⟨_, rfl⟩), .inl trivial,
    .inr (.inr ⟨_, rfl⟩), .inr (.inr ⟨_, rfl⟩), .inr (.inr ⟨_, rfl⟩), .inr (.inr ⟨_, rfl⟩),
    .inr (.inr ⟨_, rfl⟩), .inr (.inr ⟨_, rfl⟩), .inr (.inr ⟨_, rfl⟩), .inr (.inl trivial),
    .inr (.inr ⟨_, rfl⟩), .inr (.inr ⟨_, rfl⟩), .inr (.inr ⟨_, rfl⟩), .inr (.inr ⟨_, rfl⟩),
    .inr (.inr ⟨_, rfl⟩), .inr (.inr ⟨_, rfl⟩), .inr (.inr ⟨_, rfl⟩), .inr (.inr ⟨_, rfl⟩),
    .inr (.inr ⟨_, rfl⟩), .inr (.inr ⟨_, rfl⟩), .inr (.inr ⟨_, rfl⟩), .inr (.inr ⟨_, rfl⟩),
    .inr (.inr ⟨_, rfl⟩), .inr (.inr ⟨_, rfl⟩)⟩

/-- An analyzer that can break down does so exactly if its comparison does not succeed. -/
theorem toOption_eq_none_iff {result : Except PatternFault (List Record)} :
    result.toOption = none ↔ ¬ ∃ records, result = .ok records := by
  cases result <;> simp [Except.toOption]

/-- Of all analyzers only that of imports and that of side effects can break down, each on the
patterns that it matches. -/
theorem compare_eq_none_iff {analyzer : Analyzer} (h : analyzer ∈ all) :
    analyzer.compare target base head = none ↔
      analyzer = imports ∧ target.config.FailsOnImports base head ∨
        analyzer = sideEffects ∧ target.config.FailsOnCalls head := by
  -- Only these two analyzers read patterns; all others are total comparisons.
  have himports : imports.compare target base head = none ↔
      target.config.FailsOnImports base head := by
    rw [← not_iff_not, ← compareImports_isOk_iff, ← toOption_eq_none_iff.not_left]
    rfl
  have hcalls : sideEffects.compare target base head = none ↔
      target.config.FailsOnCalls head := by
    rw [← not_iff_not, ← compareSideEffects_isOk_iff, ← toOption_eq_none_iff.not_left]
    rfl
  constructor
  · intro hnone
    rcases eq_of_of_mem_all analyzer h with rfl | rfl | ⟨comparison, heq⟩
    · exact Or.inl ⟨rfl, himports.1 hnone⟩
    · exact Or.inr ⟨rfl, hcalls.1 hnone⟩
    · rw [heq] at hnone
      cases hnone
  · rintro (⟨rfl, hfails⟩ | ⟨rfl, hfails⟩)
    · exact himports.2 hfails
    · exact hcalls.2 hfails

end Analyzer

end ChangeLens
