import ChangeLens.Config
import Mathlib.Data.List.Forall2

/-!
# `ChangeLens.Proofs.Validation`: how reading a configuration ends

`Config.build` reads any table of values. `Ends` is the contract of a reader: what holds of its answer
if it gives one, and what holds of the fault otherwise. A reader made of readers keeps their contracts
(`Ends.bind`), so each reader has one lemma and `build_ends` puts them together: an answer is within
bounds and made of what the entries name, and every fault is reported as an error of the
configuration, with one exception.

The exception is a sequence in the place of the severity overrides: an item of it that is no pair,
because it has another length, is reported as a plain error. `Miscut` says which values have such an
item before anything else is wrong with them (`readPairs_escapes_iff`). They are read after the
sections, the patterns and the disabled kinds and before the amounts (`build_eq_bind`), so
the fault comes out exactly if the entries without these late ones can be read.

`build_settled_iff` puts this together, and `cutPair_escapes` shows a text of three characters in the
place of a pair.
-/

set_option autoImplicit false

namespace ChangeLens.Config

open Setting

/-! ### Contracts of readers -/

section Contracts

variable {α β : Type} {P : α → Prop} {Q : β → Prop} {E : ConfigError → Prop}

/-- A reader gives an answer with `P`, or it fails with a fault with `E`. -/
def Ends (P : α → Prop) (E : ConfigError → Prop) : Except ConfigError α → Prop
  | .ok answer => P answer
  | .error fault => E fault

/-- A fault that is reported as an error of the configuration. -/
def Reported (fault : ConfigError) : Prop :=
  fault.isConfiguration = true

/-- Contracts of two readings in turn. -/
theorem Ends.bind {x : Except ConfigError α} {next : α → Except ConfigError β} (h : Ends P E x)
    (hnext : ∀ answer, P answer → Ends Q E (next answer)) : Ends Q E (x >>= next) := by
  cases x with
  | ok answer => exact hnext answer h
  | error fault => exact h

/-- A contract may be weakened in what it promises. -/
theorem Ends.mono {E' : ConfigError → Prop} {P' : α → Prop} {x : Except ConfigError α}
    (h : Ends P E x) (hP : ∀ answer, P answer → P' answer) (hE : ∀ fault, E fault → E' fault) :
    Ends P' E' x := by
  cases x with
  | ok answer => exact hP answer h
  | error fault => exact hE fault h

/-- A list is read item by item. -/
theorem Ends.mapM {R : α → β → Prop} {read : α → Except ConfigError β} {items : List α}
    (h : ∀ item ∈ items, Ends (R item) E (read item)) :
    Ends (List.Forall₂ R items) E (items.mapM read) := by
  induction items with
  | nil => exact .nil
  | cons item rest ih =>
    rw [List.mapM_cons]
    refine (h item List.mem_cons_self).bind fun answer hanswer => ?_
    refine (ih fun other hother => h other (List.mem_cons_of_mem _ hother)).bind ?_
    exact fun answers hanswers => .cons hanswer hanswers

/-- A value that is there is read; its default stands in for one that is not. -/
theorem valueOr_ends {entries : Entries} {key : String} {default : α}
    {read : Setting → Except ConfigError α}
    (hread : ∀ value, lookup? key entries = some value → Ends P E (read value))
    (hdefault : lookup? key entries = none → P default) :
    Ends P E (valueOr entries key default read) := by
  unfold valueOr
  cases h : lookup? key entries with
  | none => exact hdefault h
  | some value => exact hread value h

end Contracts

/-! ### What is read -/

/-- A list of names has been read: each item names a member of the vocabulary, in order. Without the
list the default counts. -/
def Names {α : Type} (parse : Setting → Option α) (given : Option Setting) (default result : List α) :
    Prop :=
  match given with
  | none => result = default
  | some value => ∃ items, value = .list items ∧ items.map parse = result.map some

/-- A severity has been read, or there is none. -/
def NamesSeverity (given : Option Setting) (result : Option Severity) : Prop :=
  match given with
  | none | some .null => result = none
  | some value => result.isSome = true ∧ severityOf? value = result

/-- Severity overrides have been read: kind and severity of every pair are known. -/
def NamesOverrides (given : Option Setting) (result : List (ChangeKind × Severity)) : Prop :=
  match given with
  | none => result = []
  | some value => ∃ pairs, readPairs value = .ok pairs ∧
      pairs.map (fun (key, value) => (kindOf? key, severityOf? value)) =
        result.map fun (kind, severity) => (some kind, some severity)

/-- The entries of a section. -/
def sectionEntries (entries : Entries) (place : Section) : Entries :=
  entriesOf (lookup? place.key entries)

/-- The amounts are as large as they have to be. -/
structure InBounds (config : Config) : Prop where
  /-- A file gets some time. -/
  timeout : 1 ≤ config.timeoutMs.value
  /-- There is a worker, unless their number is left open. -/
  workers : ∀ workers ∈ config.workers, 1 ≤ workers.value
  /-- A worker gets some memory. -/
  memory : 16 ≤ config.maxMemoryMb.value
  /-- Handlers have a complexity to start from. -/
  threshold : 1 ≤ config.markup.handlerThreshold.value

/-- Groups, kinds and severities are those that the entries name. -/
structure NamedBy (entries : Entries) (config : Config) : Prop where
  /-- The groups that are reported. -/
  enabled : Names groupOf? (lookup? "enabled" (sectionEntries entries .groups))
    ({} : GroupSwitches).enabled config.groups.enabled
  /-- The groups that are not. -/
  disabled : Names groupOf? (lookup? "disabled" (sectionEntries entries .groups))
    ({} : GroupSwitches).disabled config.groups.disabled
  /-- The kinds that always require tests. -/
  always : Names kindOf? (lookup? "always_require_tests" (sectionEntries entries .tests))
    ({} : TestRequirements).always config.tests.always
  /-- The kinds that never do. -/
  never : Names kindOf? (lookup? "never_require_tests" (sectionEntries entries .tests))
    ({} : TestRequirements).never config.tests.never
  /-- The least severity that does. -/
  minimum : NamesSeverity (lookup? "minimum_severity_for_tests" (sectionEntries entries .tests))
    config.tests.minimum
  /-- The kinds that are not reported. -/
  kinds : Names kindOf? (lookup? "disabled_change_kinds" entries) [] config.disabledKinds
  /-- The severities that replace others. -/
  overrides : NamesOverrides (lookup? "severity_overrides" entries) config.severityOverrides

/-! ### One contract for each reader -/

/-- Unknown keys are reported. -/
theorem checkKeys_ends (place : Option Section) (known : List String) (entries : Entries) :
    Ends (fun _ => True) Reported (checkKeys place known entries) := by
  unfold checkKeys
  split
  · rfl
  · trivial

/-- What is read as a list is one; all else is reported. -/
theorem readList_ends (key : String) (value : Setting) :
    Ends (fun items => value = .list items) Reported (readList key value) := by
  cases value <;> rfl

/-- An amount that is read is at least the least one; all else is reported. -/
theorem readAmount_ends (place : Option Section) (key : String) (least : Int) (value : Setting) :
    Ends (fun amount => least ≤ amount.value) Reported (readAmount place key least value) := by
  unfold readAmount
  split
  · split
    · rfl
    · exact Int.not_lt.1 ‹_›
  · split
    · rfl
    · exact Int.not_lt.1 ‹_›
  · rfl

/-- Nothing is lost when every item can be read. -/
theorem map_eq_map_some_filterMap {α β : Type} {parse : α → Option β} {items : List α}
    (h : ∀ item ∈ items, (parse item).isSome = true) :
    items.map parse = (items.filterMap parse).map some := by
  induction items with
  | nil => rfl
  | cons item rest ih =>
    obtain ⟨answer, hanswer⟩ := Option.isSome_iff_exists.1 (h item List.mem_cons_self)
    rw [List.map_cons, List.filterMap_cons_some hanswer, List.map_cons, hanswer,
      ih fun other hother => h other (List.mem_cons_of_mem _ hother)]

/-- A list of kinds is read name by name; an unknown name is reported. -/
theorem readKinds_ends (key : String) (value : Setting) (default : List ChangeKind) :
    Ends (Names kindOf? (some value) default) Reported (readKinds key value) := by
  refine (readList_ends key value).bind fun items hitems => ?_
  split
  · rfl
  · next hall =>
    refine ⟨items, hitems, map_eq_map_some_filterMap fun item hitem => ?_⟩
    have hknown := List.find?_eq_none.1 hall item hitem
    exact Option.isSome_iff_ne_none.2 (by simpa using hknown)

/-- The same for groups. -/
theorem readGroups_ends (key : String) (value : Setting) (default : List Group) :
    Ends (Names groupOf? (some value) default) Reported (readGroups key value) := by
  refine (readList_ends key value).bind fun items hitems => ?_
  split
  · next hall =>
    refine ⟨items, hitems, map_eq_map_some_filterMap fun item hitem => ?_⟩
    have hknown := List.filter_eq_nil_iff.1 hall item hitem
    exact Option.isSome_iff_ne_none.2 (by simpa using hknown)
  · rfl

/-- A severity is read from its name. -/
theorem readMinimum_ends (value : Setting) :
    Ends (NamesSeverity (some value)) Reported (readMinimum value) := by
  have hvalue (value : Setting) (hnull : value ≠ .null) (result : Option Severity) :
      NamesSeverity (some value) result ↔ result.isSome = true ∧ severityOf? value = result := by
    cases value <;> first | exact absurd rfl hnull | exact Iff.rfl
  unfold readMinimum
  split
  · rfl
  · next hnull =>
    split
    · next severity hseverity => exact (hvalue value hnull _).2 ⟨rfl, hseverity⟩
    · rfl

/-- A number of workers that is read is at least one. -/
theorem readWorkers_ends (value : Setting) :
    Ends (fun workers => ∀ amount ∈ workers, 1 ≤ amount.value) Reported (readWorkers value) := by
  unfold readWorkers
  split
  · exact fun amount hamount => nomatch hamount
  · have hamount := readAmount_ends none "workers" 1 value
    revert hamount
    cases readAmount none "workers" 1 value with
    | error fault => exact id
    | ok amount =>
      intro hleast other hother
      obtain rfl := Option.some.inj hother
      exact hleast

/-! ### Severity overrides -/

/-- An item that can be taken for a key and a value. Lists and tables cannot be keys. -/
def IsPair (item : Setting) : Prop :=
  ∃ key value, sequence? item = some [key, value] ∧
    (∀ items, key ≠ .list items) ∧ ∀ entries, key ≠ .table entries

/-- A sequence in the place of a table, with an item that is a sequence of another length than two
and has only pairs in front of it. -/
def Miscut (value : Setting) : Prop :=
  (∀ entries, value ≠ .table entries) ∧
    ∃ front item back parts, sequence? value = some (front ++ item :: back) ∧
      (∀ pair ∈ front, IsPair pair) ∧ sequence? item = some parts ∧ parts.length ≠ 2

/-- A sequence of two items is a pair. -/
theorem readPair_of_isPair {item : Setting} (h : IsPair item) (index : Nat) :
    ∃ pair, readPair index item = .ok pair := by
  obtain ⟨key, value, hitem, hlist, htable⟩ := h
  refine ⟨(key, value), ?_⟩
  unfold readPair
  rw [hitem]
  cases key with
  | list items => exact absurd rfl (hlist items)
  | table entries => exact absurd rfl (htable entries)
  | null | switch | number | text => rfl

/-- A sequence of another length is cut wrongly. -/
theorem readPair_of_length {item : Setting} {parts : List Setting}
    (hitem : sequence? item = some parts) (hlength : parts.length ≠ 2) (index : Nat) :
    readPair index item = .error (.pairLength index parts.length) := by
  unfold readPair
  rw [hitem]
  -- The reader looks at the first item before it has counted them.
  match parts with
  | [] => rfl
  | [key] => cases key <;> rfl
  | [_, _] => exact absurd rfl hlength
  | key :: _ :: _ :: _ => cases key <;> rfl

/-- What is read is a pair; a fault that is not reported is one of length. -/
theorem readPair_ends (index : Nat) (item : Setting) :
    Ends (fun _ => IsPair item)
      (fun fault => ¬ Reported fault → ∃ parts, sequence? item = some parts ∧ parts.length ≠ 2)
      (readPair index item) := by
  unfold readPair
  split
  · exact absurd rfl
  · exact absurd rfl
  · exact absurd rfl
  · next key value hlist htable hitem =>
    exact ⟨key, value, hitem, fun items h => hlist items h, fun entries h => htable entries h⟩
  · next parts hlist htable hpair hitem =>
    refine fun _ => ⟨parts, hitem, fun hlength => ?_⟩
    obtain ⟨key, value, rfl⟩ := List.length_eq_two.1 hlength
    exact hpair key value rfl

/-- Reads items as pairs, numbered from `start`. -/
def readItems (start : Nat) (items : List Setting) :
    Except ConfigError (List (Setting × Setting)) :=
  (items.zipIdx start).mapM fun (item, index) => readPair index item

/-- Pairs are read one after the other, with the position of each. -/
theorem readItems_cons (start : Nat) (item : Setting) (rest : List Setting) :
    readItems start (item :: rest) = (do
      let pair ← readPair start item
      let pairs ← readItems (start + 1) rest
      pure (pair :: pairs)) := by
  unfold readItems
  rw [List.zipIdx_cons, List.mapM_cons]

/-- The first item that is no pair is at fault. -/
theorem readItems_eq_error_iff {items : List Setting} {fault : ConfigError} (start : Nat) :
    readItems start items = .error fault ↔
      ∃ front item back, items = front ++ item :: back ∧ (∀ pair ∈ front, IsPair pair) ∧
        readPair (start + front.length) item = .error fault := by
  -- The items in front are pairs and are read; the positions of those behind are counted on.
  induction items generalizing start with
  | nil => simp [readItems, pure, Except.pure]
  | cons first rest ih =>
    have hfirst := readPair_ends start first
    rw [readItems_cons]
    constructor
    · -- The first item is where reading ends, or it is a pair and the end is further on.
      cases hread : readPair start first with
      | error fault' =>
        intro h
        cases h
        exact ⟨[], first, rest, rfl, nofun, hread⟩
      | ok pair =>
        intro h
        rw [hread] at hfirst
        cases hrest : readItems (start + 1) rest with
        | ok pairs => rw [hrest] at h; cases h
        | error fault' =>
          rw [hrest] at h
          cases h
          obtain ⟨front, item, back, rfl, hfront, hitem⟩ := (ih (start + 1)).1 hrest
          refine ⟨first :: front, item, back, rfl, List.forall_mem_cons.2 ⟨hfirst, hfront⟩, ?_⟩
          rwa [List.length_cons, Nat.add_comm front.length, ← Nat.add_assoc]
    · rintro ⟨front, item, back, hitems, hfront, hitem⟩
      cases front with
      | nil =>
        obtain ⟨rfl, rfl⟩ := List.cons.inj hitems
        rw [List.length_nil, Nat.add_zero] at hitem
        rw [hitem]
        rfl
      | cons other front =>
        obtain ⟨rfl, rfl⟩ := List.cons.inj hitems
        obtain ⟨hpair, hfront⟩ := List.forall_mem_cons.1 hfront
        obtain ⟨answer, hanswer⟩ := readPair_of_isPair hpair start
        rw [List.length_cons, Nat.add_comm front.length, ← Nat.add_assoc] at hitem
        rw [hanswer, (ih (start + 1)).2 ⟨front, item, back, rfl, hfront, hitem⟩]
        rfl

/-- A sequence is read item by item; what is done with the pairs makes no fault. -/
theorem readPairs_eq_error_iff {value : Setting} {items : List Setting} {fault : ConfigError}
    (htable : ∀ entries, value ≠ .table entries) (hitems : sequence? value = some items) :
    readPairs value = .error fault ↔
      ∃ front item back, items = front ++ item :: back ∧ (∀ pair ∈ front, IsPair pair) ∧
        readPair front.length item = .error fault := by
  -- Of the values that are no table, lists and texts are sequences; both are read item by item.
  have hread : readPairs value = (do
      let pairs ← readItems 0 items
      .ok (pairs.foldl (fun all (key, value) => putPair key value all) [])) := by
    cases value with
    | table entries => exact absurd rfl (htable entries)
    | null | switch | number => cases hitems
    | list | text =>
      obtain rfl := Option.some.inj hitems
      rfl
  have hitem : readItems 0 items = .error fault ↔ _ := readItems_eq_error_iff 0
  simp only [Nat.zero_add] at hitem
  rw [← hitem, hread]
  cases readItems 0 items <;> simp [bind, Except.bind]

/-- The pairs of a value cannot be read for a reason that is not reported exactly if the value is
miscut. -/
theorem readPairs_escapes_iff (value : Setting) :
    (∃ fault, readPairs value = .error fault ∧ ¬ Reported fault) ↔ Miscut value := by
  constructor
  · -- A table is read entry by entry and never escapes; and what is no sequence at all is reported.
    rintro ⟨fault, hfault, hescapes⟩
    have htable : ∀ entries, value ≠ .table entries := by
      rintro entries rfl
      cases hfault
    cases hitems : sequence? value with
    | none =>
      cases value with
      | table entries => exact absurd rfl (htable entries)
      | list | text => cases hitems
      | null | switch | number =>
        cases hfault
        exact absurd rfl hescapes
    | some items =>
      obtain ⟨front, item, back, rfl, hfront, hitem⟩ :=
        (readPairs_eq_error_iff htable hitems).1 hfault
      have hends := readPair_ends front.length item
      rw [hitem] at hends
      obtain ⟨parts, hparts, hlength⟩ := hends hescapes
      exact ⟨htable, front, item, back, parts, hitems, hfront, hparts, hlength⟩
  · rintro ⟨htable, front, item, back, parts, hitems, hfront, hparts, hlength⟩
    refine ⟨.pairLength front.length parts.length, ?_, nofun⟩
    rw [readPairs_eq_error_iff htable hitems]
    exact ⟨front, item, back, rfl, hfront, readPair_of_length hparts hlength front.length⟩

/-- An override that is read has a kind and a severity; all else is reported. -/
theorem readOverride_ends (pair : Setting × Setting) :
    Ends (fun override : ChangeKind × Severity =>
        (kindOf? pair.1, severityOf? pair.2) = (some override.1, some override.2))
      Reported (readOverride pair.1 pair.2) := by
  unfold readOverride
  cases hseverity : severityOf? pair.2 with
  | none => rfl
  | some severity =>
    cases hkind : kindOf? pair.1 with
    | none => rfl
    | some kind => rfl

/-- Overrides that are read are named; what goes wrong is reported, or was cut wrongly. -/
theorem readOverrides_ends (value : Setting) :
    Ends (NamesOverrides (some value))
      (fun fault => Reported fault ∨ readPairs value = .error fault) (readOverrides value) := by
  unfold readOverrides
  cases hpairs : readPairs value with
  | error fault => exact .inr rfl
  | ok pairs =>
    have hread := Ends.mapM fun pair (_ : pair ∈ pairs) => readOverride_ends pair
    refine hread.mono (fun overrides hoverrides => ⟨pairs, hpairs, ?_⟩) fun fault => .inl
    rw [← List.forall₂_eq_eq_eq, List.forall₂_map_left_iff, List.forall₂_map_right_iff]
    exact hoverrides

/-! ### Sections -/

/-- A list of names, or its default. -/
theorem valueOr_names {α : Type} {parse : Setting → Option α}
    {read : String → Setting → Except ConfigError (List α)}
    (h : ∀ key value default, Ends (Names parse (some value) default) Reported (read key value))
    (entries : Entries) (key place : String) (default : List α) :
    Ends (Names parse (lookup? key entries) default) Reported
      (valueOr entries key default (read place)) := by
  refine valueOr_ends (fun value hvalue => ?_) fun hnone => ?_
  · rw [hvalue]
    exact h place value default
  · rw [hnone]
    rfl

/-- A section is read from its entries; one without a value reads as one without entries. -/
theorem readSection_ends {α : Type} {P : Entries → α → Prop} {place : Section} {default : α}
    {read : Entries → Except ConfigError α} (hread : ∀ inner, Ends (P inner) Reported (read inner))
    (hdefault : P [] default) (entries : Entries) :
    Ends (P (sectionEntries entries place)) Reported (readSection place default read entries) := by
  unfold readSection sectionEntries
  cases lookup? place.key entries with
  | none => exact hdefault
  | some value =>
    cases value with
    | null => exact hdefault
    | table inner => exact hread inner
    | switch | number | text | list => rfl

/-- What is read of groups is named in their section. -/
theorem readGroupSwitches_ends (inner : Entries) :
    Ends (fun groups : GroupSwitches =>
        Names groupOf? (lookup? "enabled" inner) ({} : GroupSwitches).enabled groups.enabled ∧
        Names groupOf? (lookup? "disabled" inner) ({} : GroupSwitches).disabled groups.disabled)
      Reported (readGroupSwitches inner) := by
  refine (checkKeys_ends _ _ _).bind fun _ _ => ?_
  refine (valueOr_names readGroups_ends inner _ _ _).bind fun enabled henabled => ?_
  refine (valueOr_names readGroups_ends inner _ _ _).bind fun disabled hdisabled => ?_
  exact ⟨henabled, hdisabled⟩

/-- A value that may be anything. -/
theorem valueOr_any (entries : Entries) (key : String) (default : Setting) :
    Ends (fun _ => True) Reported (valueOr entries key default .ok) :=
  valueOr_ends (fun _ _ => trivial) fun _ => trivial

/-- The threshold of handlers that is read is at least one. -/
theorem readMarkup_ends (inner : Entries) :
    Ends (fun markup : MarkupConfig => 1 ≤ markup.handlerThreshold.value) Reported
      (readMarkup inner) := by
  refine (checkKeys_ends _ _ _).bind fun _ _ => ?_
  refine (valueOr_any inner _ _).bind fun _ _ => ?_
  refine (valueOr_any inner _ _).bind fun _ _ => ?_
  refine (valueOr_any inner _ _).bind fun _ _ => ?_
  have hthreshold : Ends (fun amount : Amount => 1 ≤ amount.value) Reported
      (valueOr inner "event_handler_complexity_threshold" ({} : MarkupConfig).handlerThreshold
        (readAmount (some .markup) "jsx.event_handler_complexity_threshold" 1)) :=
    valueOr_ends (fun value _ => readAmount_ends _ _ _ value) fun _ => by decide
  exact hthreshold.bind fun _ h => h

/-- Switches of performance are read or reported. -/
theorem readPerformance_ends (inner : Entries) :
    Ends (fun _ => True) Reported (readPerformance inner) := by
  refine (checkKeys_ends _ _ _).bind fun _ _ => ?_
  refine (valueOr_any inner _ _).bind fun _ _ => ?_
  exact (valueOr_any inner _ _).bind fun _ _ => trivial

/-- What is read of test requirements is named in their section. -/
theorem readTests_ends (inner : Entries) :
    Ends (fun tests : TestRequirements =>
        Names kindOf? (lookup? "always_require_tests" inner) ({} : TestRequirements).always
          tests.always ∧
        Names kindOf? (lookup? "never_require_tests" inner) ({} : TestRequirements).never
          tests.never ∧
        NamesSeverity (lookup? "minimum_severity_for_tests" inner) tests.minimum)
      Reported (readTests inner) := by
  refine (checkKeys_ends _ _ _).bind fun _ _ => ?_
  refine (valueOr_names readKinds_ends inner _ _ _).bind fun always halways => ?_
  refine (valueOr_names readKinds_ends inner _ _ _).bind fun never hnever => ?_
  have hminimum : Ends (NamesSeverity (lookup? "minimum_severity_for_tests" inner)) Reported
      (valueOr inner "minimum_severity_for_tests" ({} : TestRequirements).minimum readMinimum) := by
    refine valueOr_ends (fun value hvalue => ?_) fun hnone => ?_
    · rw [hvalue]
      exact readMinimum_ends value
    · rw [hnone]
      rfl
  exact hminimum.bind fun minimum h => ⟨halways, hnever, h⟩

/-! ### The whole configuration -/

/-- Patterns, which may be of any type. -/
theorem valueOr_patterns (entries : Entries) (key : String) (default : Patterns) :
    Ends (fun _ => True) Reported (valueOr entries key default (readList key)) := by
  refine valueOr_ends (fun value _ => ?_) fun _ => trivial
  exact (readList_ends key value).mono (fun _ _ => trivial) fun _ => id

/-- An amount, or its default if that is large enough. -/
theorem valueOr_amount (entries : Entries) (key : String) {least : Int} {default : Amount}
    (h : least ≤ default.value) :
    Ends (fun amount => least ≤ amount.value) Reported
      (valueOr entries key default (readAmount none key least)) :=
  valueOr_ends (fun value _ => readAmount_ends _ _ _ value) fun _ => h

/-- A configuration is within bounds and made of what the entries name; a fault is reported, unless
the pairs of the severity overrides cannot be read. -/
theorem build_ends (entries : Entries) :
    Ends (fun config => config.InBounds ∧ NamedBy entries config)
      (fun fault => Reported fault ∨ ∃ value, lookup? "severity_overrides" entries = some value ∧
        readPairs value = .error fault)
      (build entries) := by
  have weaken {α : Type} {P : α → Prop} {x : Except ConfigError α} (h : Ends P Reported x) :
      Ends P (fun fault => Reported fault ∨ ∃ value,
        lookup? "severity_overrides" entries = some value ∧ readPairs value = .error fault) x :=
    h.mono (fun _ => id) fun _ => .inl
  have hoverrides : Ends (NamesOverrides (lookup? "severity_overrides" entries))
      (fun fault => Reported fault ∨ ∃ value, lookup? "severity_overrides" entries = some value ∧
        readPairs value = .error fault)
      (valueOr entries "severity_overrides" ({} : Config).severityOverrides readOverrides) := by
    refine valueOr_ends (fun value hvalue => ?_) fun hnone => ?_
    · rw [hvalue]
      exact (readOverrides_ends value).mono (fun _ => id) fun fault h =>
        h.imp id fun hfault => ⟨value, rfl, hfault⟩
    · rw [hnone]
      rfl
  -- The number of workers may be missing; if it is there, it is at least one.
  have hworkers : Ends (fun workers : Option Amount => ∀ amount ∈ workers, 1 ≤ amount.value)
      Reported (valueOr entries "workers" ({} : Config).workers readWorkers) :=
    valueOr_ends (fun value _ => readWorkers_ends value) fun _ => nofun
  -- The entries are read in this order, each with its contract; only that of the overrides lets a
  -- fault escape.
  refine (weaken (readSection_ends readGroupSwitches_ends ⟨rfl, rfl⟩ entries)).bind
    fun groups hgroups => ?_
  refine (weaken (readSection_ends (P := fun _ markup => 1 ≤ markup.handlerThreshold.value)
    readMarkup_ends (by decide) entries)).bind fun markup hmarkup => ?_
  refine (weaken (readSection_ends (P := fun _ _ => True) readPerformance_ends trivial entries)).bind
    fun performance _ => ?_
  refine (weaken (readSection_ends readTests_ends ⟨rfl, rfl, rfl⟩ entries)).bind
    fun tests htests => ?_
  refine (weaken (checkKeys_ends none knownKeys entries)).bind fun _ _ => ?_
  refine (weaken (valueOr_patterns entries _ _)).bind fun includes _ => ?_
  refine (weaken (valueOr_patterns entries _ _)).bind fun excludes _ => ?_
  refine (weaken (valueOr_patterns entries _ _)).bind fun sideEffectCallees _ => ?_
  refine (weaken (valueOr_patterns entries _ _)).bind fun sideEffectModules _ => ?_
  refine (weaken (valueOr_patterns entries _ _)).bind fun testGlobs _ => ?_
  refine (weaken (valueOr_patterns entries _ _)).bind fun bypassLabels _ => ?_
  refine (weaken (valueOr_names readKinds_ends entries _ _ _)).bind fun kinds hkinds => ?_
  refine hoverrides.bind fun overrides hoverrides => ?_
  refine (weaken (valueOr_amount entries _ (by decide))).bind fun timeout htimeout => ?_
  refine (weaken hworkers).bind fun workers hworkers => ?_
  refine (weaken (valueOr_amount entries _ (by decide))).bind fun memory hmemory => ?_
  refine (weaken (valueOr_any entries _ _)).bind fun enforce _ => ?_
  exact ⟨⟨htimeout, hworkers, hmemory, hmarkup⟩,
    ⟨hgroups.1, hgroups.2, htests.1, htests.2.1, htests.2.2, hkinds, hoverrides⟩⟩

/-! ### What is read before the severity overrides -/

/-- The keys that are read last: the severity overrides and the values behind them. -/
def lateKeys : List String :=
  ["severity_overrides", "timeout_ms", "workers", "max_memory_mb", "enforce_memory_limit"]

/-- The entries without those that are read last. -/
def early (entries : Entries) : Entries :=
  entries.filter (·.1 ∉ lateKeys)

/-- The early entries have no late key, and all others as they were. -/
theorem lookup?_early (entries : Entries) (key : String) :
    lookup? key (early entries) = if key ∈ lateKeys then none else lookup? key entries := by
  induction entries with
  | nil => simp [early, lookup?]
  | cons entry rest ih =>
    obtain ⟨name, value⟩ := entry
    -- An entry with a late key is dropped, so it cannot be found; any other entry is found as
    -- before.
    by_cases hlate : name ∈ lateKeys
    · have hskip : early ((name, value) :: rest) = early rest := by simp [early, hlate]
      rw [hskip, ih, lookup?]
      by_cases hname : name = key
      · rw [if_pos (hname ▸ hlate), if_pos (hname ▸ hlate)]
      · rw [if_neg hname]
    · have hkeep : early ((name, value) :: rest) = (name, value) :: early rest := by
        simp [early, hlate]
      rw [hkeep, lookup?, ih, lookup?]
      by_cases hname : name = key
      · rw [if_pos hname, if_pos hname, if_neg (hname ▸ hlate)]
      · rw [if_neg hname, if_neg hname]

/-- What no late key has is found among the early entries. -/
theorem find?_early {wanted : String × Setting → Bool}
    (hlate : ∀ entry, entry.1 ∈ lateKeys → wanted entry = false) (entries : Entries) :
    (early entries).find? wanted = entries.find? wanted := by
  rw [early, List.find?_filter]
  congr 1
  funext entry
  by_cases hkey : entry.1 ∈ lateKeys
  · simp [hlate entry hkey]
  · simp [hkey]

/-- Late keys are known, so they do not matter for the first key that is not. -/
theorem checkKeys_early (entries : Entries) :
    checkKeys none knownKeys (early entries) = checkKeys none knownKeys entries := by
  have hknown : ∀ key ∈ lateKeys, key ∈ knownKeys := by decide
  rw [checkKeys, checkKeys, find?_early fun entry hkey => by simp [hknown entry.1 hkey]]

/-- What goes on from an answer. -/
theorem ok_bind {α β : Type} (answer : α) (next : α → Except ConfigError β) :
    (Except.ok answer >>= next) = next answer := rfl

/-- A configuration is read in two parts, the first of which is read like one without late entries. -/
theorem build_eq_bind (entries : Entries) :
    ∃ rest : Config → List (ChangeKind × Severity) → Except ConfigError Config,
      build entries = build (early entries) >>= fun config =>
        valueOr entries "severity_overrides" ({} : Config).severityOverrides readOverrides >>=
          rest config := by
  refine ⟨fun config overrides => do
    let timeoutMs ← valueOr entries "timeout_ms" ({} : Config).timeoutMs
      (readAmount none "timeout_ms" 1)
    let workers ← valueOr entries "workers" ({} : Config).workers readWorkers
    let maxMemoryMb ← valueOr entries "max_memory_mb" ({} : Config).maxMemoryMb
      (readAmount none "max_memory_mb" 16)
    let enforceMemoryLimit ← valueOr entries "enforce_memory_limit"
      ({} : Config).enforceMemoryLimit .ok
    .ok { config with
      severityOverrides := overrides, timeoutMs, workers, maxMemoryMb, enforceMemoryLimit }, ?_⟩
  -- Among the early entries a late key is missing and takes its default; all else is read alike.
  have hvalue {α : Type} (key : String) (default : α) (read : Setting → Except ConfigError α) :
      valueOr (early entries) key default read =
        if key ∈ lateKeys then .ok default else valueOr entries key default read := by
    rw [valueOr, lookup?_early]
    by_cases hkey : key ∈ lateKeys
    · rw [if_pos hkey, if_pos hkey]
    · rw [if_neg hkey, if_neg hkey, valueOr]
  have hsection {α : Type} (place : Section) (default : α)
      (read : Entries → Except ConfigError α) :
      readSection place default read (early entries) = readSection place default read entries := by
    have hkey : place.key ∉ lateKeys := by cases place <;> decide
    rw [readSection, readSection, lookup?_early, if_neg hkey]
  unfold build
  simp only [hsection, checkKeys_early, hvalue, bind_assoc, ok_bind, lateKeys, List.mem_cons,
    List.not_mem_nil, String.reduceEq, or_false, or_true, or_self, if_false, if_true]

/-! ### How reading ends -/

/-- A configuration is read, within bounds and made of what the entries name, or the fault is reported
as an error of the configuration. -/
def Settled (entries : Entries) : Prop :=
  match build entries with
  | .ok config => config.InBounds ∧ NamedBy entries config
  | .error fault => fault.isConfiguration = true

/-- Any entries are settled, except where a sequence in the place of the severity overrides has an
item of another length than two behind nothing but pairs, and everything that is read before it is in
order. -/
theorem build_settled_iff (entries : Entries) :
    Settled entries ↔
      ¬ ((∃ config, build (early entries) = .ok config) ∧
        ∃ value, lookup? "severity_overrides" entries = some value ∧ Miscut value) := by
  have hends := build_ends entries
  obtain ⟨rest, hbuild⟩ := build_eq_bind entries
  constructor
  · -- If what comes first can be read and the overrides are cut wrongly, the fault escapes.
    rintro hsettled ⟨⟨config, hearly⟩, value, hvalue, hmiscut⟩
    obtain ⟨fault, hfault, hescapes⟩ := (readPairs_escapes_iff value).2 hmiscut
    have herror : build entries = .error fault := by
      rw [hbuild, hearly, ok_bind, valueOr, hvalue]
      simp only [readOverrides, hfault]
      rfl
    rw [Settled, herror] at hsettled
    exact hescapes hsettled
  · intro hintact
    cases hread : build entries with
    | ok config =>
      rw [hread] at hends
      rwa [Settled, hread]
    | error fault =>
      rw [hread] at hends
      rw [Settled, hread]
      -- Only the overrides let a fault escape, so it is theirs, and their value is cut wrongly.
      by_contra hescapes
      obtain ⟨value, hvalue, hfault⟩ := hends.resolve_left hescapes
      refine hintact ⟨?_, value, hvalue, (readPairs_escapes_iff value).1 ⟨fault, hfault, hescapes⟩⟩
      -- Without the late entries nothing escapes, so a fault there would have been reported.
      have hearly := build_ends (early entries)
      cases hfirst : build (early entries) with
      | ok config => exact ⟨config, rfl⟩
      | error fault' =>
        rw [hfirst] at hearly
        rw [hfirst, hread] at hbuild
        cases hbuild
        rcases hearly with hreported | ⟨value, hvalue, -⟩
        · exact absurd hreported hescapes
        · rw [lookup?_early, if_pos (by decide)] at hvalue
          cases hvalue

/-- A text of three characters in the place of a pair is not reported as an error of the
configuration. -/
theorem cutPair_escapes :
    ¬ Settled [("severity_overrides", .list [.text "abc"])] := by
  intro hsettled
  have herror : build [("severity_overrides", .list [.text "abc"])] = .error (.pairLength 0 3) := rfl
  rw [Settled, herror] at hsettled
  cases hsettled

end ChangeLens.Config
