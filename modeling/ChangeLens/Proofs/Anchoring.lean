import ChangeLens.Extract
import ChangeLens.Proofs.Coverage
import ChangeLens.Text.Distance

/-!
# `ChangeLens.Proofs.Anchoring`: which version of the file a record points into

Records of removal kinds should point into the base version and all others into the head version:
`Hunk.touches` compares the lines of a record with one side of a hunk, and the kind alone picks that
side. `Record.AnchoredIn` states this for one record.

The coverage of an analyzer decides it, as long as the kinds about base sites are removals and the
kinds about head sites are not. That is so for all analyzers but three (`anchored_of_proper`): the
vocabulary has no removal kind for types, event handlers and state, so what is gone there is
reported as changed, at the place where it stood. `straySpans` collects these places, and
`analyzers_anchored_iff` proves that they are the only obstacle.
-/

set_option autoImplicit false

namespace ChangeLens

open ChangeLens.Analyzer

/-- The removal kinds are those whose name says so. -/
theorem ChangeKind.isRemoval_eq_endsWith (kind : ChangeKind) :
    kind.isRemoval = Text.endsWith "Removed" kind.name := by
  cases kind <;> decide +kernel

/-- A record that is not about the whole file stands at a site of the version it points into: the
base version when the name of its kind ends in `Removed`, and else the head version. -/
def Record.AnchoredIn (record : Record) (base head : Model) : Prop :=
  record.isFileLevel = false →
    record.span ∈ if Text.endsWith "Removed" record.kind.name then base.spans else head.spans

namespace Record

variable {record : Record} {base head : Model}

/-- A record of a removal kind stands where something stood. -/
theorem anchoredIn_of_removal (hkind : record.kind.isRemoval = true)
    (hspan : record.span ∈ base.spans) : record.AnchoredIn base head := by
  intro _
  rw [← ChangeKind.isRemoval_eq_endsWith, hkind, if_pos rfl]
  exact hspan

/-- A record of any other kind is anchored exactly if it stands where something stands now. -/
theorem anchoredIn_iff_of_not_removal (hkind : record.kind.isRemoval = false)
    (hlabel : record.isFileLevel = false) :
    record.AnchoredIn base head ↔ record.span ∈ head.spans := by
  rw [AnchoredIn, ← ChangeKind.isRemoval_eq_endsWith, hkind, if_neg (by simp)]
  exact ⟨fun h => h hlabel, fun h _ => h⟩

/-- A record of any other kind may stand where something stands now. -/
theorem anchoredIn_of_head (hkind : record.kind.isRemoval = false)
    (hspan : record.span ∈ head.spans) : record.AnchoredIn base head := by
  intro _
  rw [← ChangeKind.isRemoval_eq_endsWith, hkind, if_neg (by simp)]
  exact hspan

/-- A record about the whole file stands nowhere in particular. -/
theorem anchoredIn_of_fileLevel (hlabel : record.isFileLevel = true) :
    record.AnchoredIn base head := by
  intro hsite
  rw [hlabel] at hsite
  cases hsite

end Record

/-! ### Analyzers whose kinds tell the sides apart -/

/-- Whether the kinds about head sites are no removals and the kinds about base sites are. -/
def Coverage.isProper (coverage : Coverage) : Bool :=
  coverage.current.all (!·.isRemoval) && coverage.former.all (·.isRemoval)

/-- The coverages in which the kind does not tell the side. -/
theorem improper_coverages :
    coverages.filter (!·.2.isProper) =
      [(types, typeCoverage), (stateManagement, stateCoverage), (markup, markupCoverage)] :=
  rfl

/-- Under a proper coverage every record is anchored. -/
theorem anchored_of_proper {coverage : Coverage} {base head : Model} {record : Record}
    (hproper : coverage.isProper = true) (h : coverage.Allows base head record) :
    record.AnchoredIn base head := by
  rw [Coverage.isProper, Bool.and_eq_true, List.all_eq_true, List.all_eq_true] at hproper
  obtain ⟨hcurrent, hformer⟩ := hproper
  cases h with
  | head kind span =>
    exact Record.anchoredIn_of_head (by simpa using hcurrent _ kind)
      (coverage.places_subset head _ span)
  | file _ label => exact Record.anchoredIn_of_fileLevel label
  | base kind span =>
    exact Record.anchoredIn_of_removal (hformer _ kind) (coverage.places_subset base _ span)

/-! ### State hooks that are gone -/

/-- The last type of state hooks whose number differs. -/
def changedStateType? (base head : Model) : Option String :=
  stateHooks.reverse.find? fun hookType =>
    (base.hooksOfType hookType).length != (head.hooksOfType hookType).length

/-- The hook of the base version at which changed state management is reported: the first one of the
last type whose number differs, when there are fewer of them now. -/
def lostStateHook? (base head : Model) : Option HookSite :=
  (changedStateType? base head).bind fun hookType =>
    if (head.hooksOfType hookType).length < (base.hooksOfType hookType).length then
      (base.hooksOfType hookType).head?
    else none

/-- A type is reported exactly if its number of hooks differs. -/
theorem isSome_stateChange? (base head : Model) (hookType : String) :
    (stateChange? base head hookType).isSome =
      ((base.hooksOfType hookType).length != (head.hooksOfType hookType).length) := by
  simp only [stateChange?]
  split
  · -- As many hooks as before: nothing is reported.
    rename_i heq
    simp [heq]
  · rename_i hne
    -- The side with more hooks has a first one.
    split
    · rename_i hlt
      cases hhead : head.hooksOfType hookType with
      | nil => simp [hhead] at hlt
      | cons => simpa [hhead] using hne
    · rename_i hlt
      cases hbase : base.hooksOfType hookType with
      | nil =>
        rw [hbase] at hne hlt
        simp only [List.length_nil] at hne hlt
        omega
      | cons => simpa [hbase] using hne

/-- The change that state management is reported at is that of the last type that changed. -/
theorem getLast?_stateChanges (base head : Model) :
    (stateHooks.filterMap (stateChange? base head)).getLast? =
      (changedStateType? base head).bind (stateChange? base head) := by
  -- `findSome?` answers for the first item at which the function is defined.
  have key (types : List String) :
      types.findSome? (stateChange? base head) =
        (types.find? fun hookType => (stateChange? base head hookType).isSome).bind
          (stateChange? base head) := by
    induction types with
    | nil => rfl
    | cons hookType rest ih =>
      rw [List.findSome?_cons, List.find?_cons]
      cases hchange : stateChange? base head hookType with
      | none => simpa using ih
      | some change => simp [hchange]
  rw [List.getLast?_filterMap, key, changedStateType?]
  simp only [isSome_stateChange?]

/-- State management is reported at a hook of the head version, or at the lost hook. -/
theorem span_of_mem_compareState {target : Target} {base head : Model} {record : Record}
    (h : record ∈ compareState target base head) :
    record.span ∈ head.hooks.map HookSite.span ∨
      ∃ hook, lostStateHook? base head = some hook ∧ record.span = hook.span := by
  obtain ⟨-, text, hlast⟩ := mem_compareState h
  rw [getLast?_stateChanges] at hlast
  obtain ⟨hookType, htype, hchange⟩ := Option.bind_eq_some_iff.1 hlast
  rcases stateChange?_eq_some hchange with ⟨-, hook, hhook, hspan⟩ | ⟨hlt, hook, hhook, hspan⟩
  · exact Or.inl (hspan ▸ span_mem_of_head?_hooksOfType hhook)
  · refine Or.inr ⟨hook, ?_, hspan.symm⟩
    rw [lostStateHook?, htype, Option.bind_some, if_pos hlt]
    exact hhook

/-- A lost hook is reported. -/
theorem mem_compareState_of_lost {base head : Model} {hook : HookSite} (target : Target)
    (h : lostStateHook? base head = some hook) :
    ∃ record ∈ compareState target base head, record.kind = .stateManagementChanged ∧
      record.isFileLevel = false ∧ record.span = hook.span := by
  obtain ⟨hookType, htype, hlost⟩ := Option.bind_eq_some_iff.1 h
  split at hlost
  · rename_i hlt
    -- Fewer hooks than before: the anchor is the first base hook, which is the lost one.
    obtain ⟨text, hchange⟩ : ∃ text, stateChange? base head hookType = some (text, hook.span) := by
      simp only [stateChange?]
      rw [if_neg (by omega), if_neg (by omega), hlost]
      exact ⟨_, rfl⟩
    have hlast := getLast?_stateChanges base head
    rw [htype, Option.bind_some, hchange] at hlast
    simp only [compareState, hlast]
    exact ⟨_, List.mem_singleton_self _, rfl, rfl, rfl⟩
  · cases hlost

/-! ### Types and event handlers that are gone -/

/-- Among the types on one side only, those that count as removed are reported so. -/
theorem typeRemoved_mem_typeLeftovers {removed added : List TypeSite} {site : TypeSite}
    (target : Target) (h : site ∈ reportedGone removed added) :
    typeRemoved target site ∈ typeLeftovers target removed added := by
  by_cases hpair : ∃ old new, removed = [old] ∧ added = [new]
  · obtain ⟨old, new, rfl, rfl⟩ := hpair
    cases h
  · have hmany (old new : TypeSite) (hold : removed = [old]) (hnew : added = [new]) : False :=
      hpair ⟨old, new, hold, hnew⟩
    rw [typeLeftovers_eq target hmany]
    exact List.mem_append_left _ (List.mem_map_of_mem (mem_of_mem_reportedGone h))

/-- A removed type is anchored at its declaration, not at the file. -/
theorem typeRemoved_not_fileLevel (target : Target) (site : TypeSite) :
    (typeRemoved target site).isFileLevel = false := by
  show (typeLabel site == Record.fileLevelLabel) = false
  rw [typeLabel]
  split <;> decide

/-- Whether event handlers are compared at all. -/
def comparesHandlers (target : Target) : Bool :=
  target.config.markup.enabled.isOn && !target.config.markup.ignoreLogicChanges.isOn

/-- A handler that counts as removed is reported so, as long as handlers are compared. -/
theorem handlerRemoved_mem_compareMarkup {target : Target} {base head : Model} {site : HandlerSite}
    (hcompares : comparesHandlers target = true) (h : site ∈ removedHandlers target base head) :
    handlerRecord target "removed" site ∈ compareMarkup target base head := by
  rw [comparesHandlers, Bool.and_eq_true, Bool.not_eq_true'] at hcompares
  rw [compareMarkup, if_neg (by simp [hcompares.1]), if_neg (by simp [hcompares.2])]
  exact List.mem_append_right _ (List.mem_append_right _ (List.mem_map_of_mem h))

/-! ### All analyzers -/

/-- The places of the base version at which something gone is reported as changed. -/
def straySpans (target : Target) (base head : Model) : List Span :=
  (removedTypes base head).map TypeSite.span ++
    (lostStateHook? base head).toList.map HookSite.span ++
    (if comparesHandlers target then (removedHandlers target base head).map HandlerSite.span
     else [])

/-- Where a stray place comes from. -/
theorem mem_straySpans {target : Target} {base head : Model} {span : Span} :
    span ∈ straySpans target base head ↔
      (∃ site ∈ removedTypes base head, site.span = span) ∨
        (∃ hook, lostStateHook? base head = some hook ∧ hook.span = span) ∨
          comparesHandlers target = true ∧
            ∃ site ∈ removedHandlers target base head, site.span = span := by
  simp only [straySpans, List.mem_append, List.mem_map, Option.mem_toList, or_assoc]
  refine or_congr_right (or_congr_right ?_)
  split <;> simp_all

/-- A record of any analyzer is anchored, or it stands at a stray place and says that something
there has changed. -/
theorem anchored_or_stray {analyzer : Analyzer} (hanalyzer : analyzer ∈ all) {target : Target}
    {base head : Model} {records : List Record}
    (hrecords : analyzer.compare target base head = some records) {record : Record}
    (hrecord : record ∈ records) :
    record.AnchoredIn base head ∨
      record.kind.isRemoval = false ∧ record.span ∈ straySpans target base head := by
  obtain ⟨coverage, hentry⟩ := exists_coverage hanalyzer
  by_cases hproper : coverage.isProper = true
  · have hallows := coverages_sound _ hentry target base head records hrecords record hrecord
    exact Or.inl (anchored_of_proper hproper hallows)
  -- The three analyzers whose kinds do not tell the sides apart.
  have himproper : (analyzer, coverage) ∈ coverages.filter (!·.2.isProper) :=
    List.mem_filter.2 ⟨hentry, by simpa using hproper⟩
  rw [improper_coverages] at himproper
  simp only [List.mem_cons, List.not_mem_nil, or_false, Prod.mk.injEq] at himproper
  rcases himproper with ⟨rfl, -⟩ | ⟨rfl, -⟩ | ⟨rfl, -⟩
  · cases hrecords
    rcases mem_compareTypes hrecord with ⟨hkind, hspan⟩ | ⟨site, hsite, rfl⟩
    · exact Or.inl (Record.anchoredIn_of_head (by rw [hkind]; rfl)
        (typeCoverage.places_subset head _ hspan))
    · exact Or.inr ⟨rfl, mem_straySpans.2 (Or.inl ⟨site, hsite, rfl⟩)⟩
  · cases hrecords
    obtain ⟨hkind, -⟩ := mem_compareState hrecord
    rcases span_of_mem_compareState hrecord with hspan | ⟨hook, hlost, hspan⟩
    · exact Or.inl (Record.anchoredIn_of_head (by rw [hkind]; rfl)
        (stateCoverage.places_subset head _ hspan))
    · have hstray : record.span ∈ straySpans target base head :=
        mem_straySpans.2 (Or.inr (Or.inl ⟨hook, hlost, hspan.symm⟩))
      exact Or.inr ⟨by rw [hkind]; rfl, hstray⟩
  · cases hrecords
    obtain ⟨hon, helement | ⟨hlogic, hrender | hhandler⟩⟩ := mem_compareMarkup hrecord
    · exact Or.inl (anchored_of_proper rfl (compareElements_keeps target base head record helement))
    · exact Or.inl (anchored_of_proper rfl (compareRenders_keeps target base head record hrender))
    · rcases mem_compareHandlers hhandler with ⟨hkind, hspan⟩ | ⟨site, hsite, rfl⟩
      · exact Or.inl (Record.anchoredIn_of_head (by rw [hkind]; rfl)
          (handlerCoverage.places_subset head _ hspan))
      · have hcompares : comparesHandlers target = true := by simp [comparesHandlers, hon, hlogic]
        exact Or.inr ⟨rfl, mem_straySpans.2 (Or.inr (Or.inr ⟨hcompares, site, hsite, rfl⟩))⟩

/-- At every stray place one of the analyzers reports a change. -/
theorem exists_record_of_stray {target : Target} {base head : Model} {span : Span}
    (h : span ∈ straySpans target base head) :
    ∃ analyzer ∈ all, ∃ records, analyzer.compare target base head = some records ∧
      ∃ record ∈ records, record.kind.isRemoval = false ∧ record.isFileLevel = false ∧
        record.span = span := by
  rcases mem_straySpans.1 h with
    ⟨site, hsite, rfl⟩ | ⟨hook, hlost, rfl⟩ | ⟨hcompares, site, hsite, rfl⟩
  · have hremoved : typeRemoved target site ∈ compareTypes target base head :=
      List.mem_append_right _ (typeRemoved_mem_typeLeftovers target hsite)
    exact ⟨types, by simp [all, core], _, rfl, _, hremoved, rfl,
      typeRemoved_not_fileLevel target site, rfl⟩
  · obtain ⟨record, hrecord, hkind, hlabel, hspan⟩ := mem_compareState_of_lost target hlost
    exact ⟨stateManagement, by simp [all, structural], _, rfl, record, hrecord, by rw [hkind]; rfl,
      hlabel, hspan⟩
  · exact ⟨markup, by simp [all, structural], _, rfl, _,
      handlerRemoved_mem_compareMarkup hcompares hsite, rfl, rfl, rfl⟩

/-- Every record of every analyzer is anchored exactly if each place where a type, a state hook or
an event handler is gone happens to be the place of a head site as well. An analyzer that breaks down
has no records. -/
theorem analyzers_anchored_iff (target : Target) (base head : Model) :
    (∀ analyzer ∈ all, ∀ records, analyzer.compare target base head = some records →
        ∀ record ∈ records, record.AnchoredIn base head) ↔
      ∀ span ∈ straySpans target base head, span ∈ head.spans := by
  constructor
  · intro hanchored span hspan
    -- The record at a stray place is anchored only if a head site happens to stand there too.
    obtain ⟨analyzer, hanalyzer, records, hrecords, record, hrecord, hkind, hlabel, rfl⟩ :=
      exists_record_of_stray hspan
    have hrecord := hanchored analyzer hanalyzer records hrecords record hrecord
    exact (Record.anchoredIn_iff_of_not_removal hkind hlabel).1 hrecord
  · intro hstray analyzer hanalyzer records hrecords record hrecord
    rcases anchored_or_stray hanalyzer hrecords hrecord with hanchored | ⟨hkind, hspan⟩
    · exact hanchored
    · exact Record.anchoredIn_of_head hkind (hstray _ hspan)

/-- A text without statements. -/
def blankSource : Source :=
  .ofRows "" [⟨"program", "", true, 0, 0, 0⟩]

/-- A text that defines one type. -/
def aliasSource : Source :=
  .ofRows "type A = B"
    [⟨"program", "", true, 0, 10, 1⟩, ⟨"type_alias_declaration", "", true, 0, 10, 4⟩,
     ⟨"type", "", false, 0, 4, 0⟩, ⟨"type_identifier", "name", true, 5, 6, 0⟩,
     ⟨"=", "", false, 7, 8, 0⟩, ⟨"type_identifier", "value", true, 9, 10, 0⟩]

/-- When the only type of a file goes, its record points into the head version, where nothing is. -/
theorem removed_alias_not_anchored :
    ¬ ∀ analyzer ∈ all, ∀ records,
      analyzer.compare ⟨"a.ts", {}, Text.similarity⟩ (Model.ofSource aliasSource "typescript")
          (Model.ofSource blankSource "typescript") = some records →
        ∀ record ∈ records, record.AnchoredIn (Model.ofSource aliasSource "typescript")
          (Model.ofSource blankSource "typescript") := by
  intro hanchored
  have hstray : ⟨1, 0, 1, 10⟩ ∈ straySpans ⟨"a.ts", {}, Text.similarity⟩
      (Model.ofSource aliasSource "typescript") (Model.ofSource blankSource "typescript") :=
    List.mem_of_mem_head? rfl
  obtain ⟨analyzer, hanalyzer, records, hrecords, record, hrecord, hkind, hlabel, -⟩ :=
    exists_record_of_stray hstray
  have hrecord := hanchored analyzer hanalyzer records hrecords record hrecord
  have hspan := (Record.anchoredIn_iff_of_not_removal hkind hlabel).1 hrecord
  have hnone : (Model.ofSource blankSource "typescript").spans = [] := rfl
  rw [hnone] at hspan
  cases hspan

end ChangeLens
