import ChangeLens.Config.Load

/-!
# `ChangeLens.Proofs.Layering`: which layer a setting comes from

Layers of a configuration are laid over each other by `Setting.mergeTable`. `Setting.at?` looks up a
path of keys through nested tables, so a setting is a path with a value that is no table.

* `Setting.lookup?_mergeTable`: one key of a merged table.
* `Setting.at?_mergeTable`: one path of a merged table. It has what the upper table has there; if the
  upper table spares the path, it has what was there before. `Setting.Spares` says what sparing a
  path takes: nothing at the path, and nothing but tables in front of it.
* `Config.at?_mergeAll`: a setting comes from a layer behind which all layers spare its path.

Keys of a table are distinct, at every depth (`Setting.DistinctKeys`): a layer with a key
written twice would be laid over itself.
-/

set_option autoImplicit false

namespace ChangeLens

namespace Setting

/-! ### Keys -/

/-- Setting a key changes what is found at this key and nothing else. -/
theorem lookup?_put (key other : String) (value : Setting) (entries : Entries) :
    lookup? other (put key value entries) =
      if key = other then some value else lookup? other entries := by
  induction entries with
  | nil => simp [put, lookup?]
  | cons entry rest ih =>
    obtain ⟨name, old⟩ := entry
    rw [put]
    by_cases hname : name = key
    · rw [if_pos hname, lookup?, lookup?, hname]
      split <;> rfl
    · rw [if_neg hname, lookup?, lookup?, ih]
      by_cases hkey : key = other
      · subst hkey
        simp [hname]
      · simp [hkey]

/-- Nothing is found exactly at keys that no entry has. -/
theorem lookup?_eq_none_iff (key : String) (entries : Entries) :
    lookup? key entries = none ↔ key ∉ entries.map Prod.fst := by
  induction entries with
  | nil => simp [lookup?]
  | cons entry rest ih =>
    obtain ⟨name, value⟩ := entry
    by_cases hname : name = key
    · simp [lookup?, hname]
    · rw [lookup?, if_neg hname, ih]
      simp [Ne.symm hname]

/-- A value is no table. -/
def IsPlain (value : Setting) : Prop :=
  ∀ entries, value ≠ table entries

/-- A table is merged into the entries of what was there. -/
theorem mergeValue_table (existing : Option Setting) (entries : Entries) :
    mergeValue existing (table entries) = table (mergeTable (entriesOf existing) entries) := by
  simp only [mergeValue]

/-- A value that is no table replaces what was there. -/
theorem mergeValue_of_isPlain {value : Setting} (hvalue : IsPlain value)
    (existing : Option Setting) : mergeValue existing value = value := by
  cases value with
  | table entries => exact absurd rfl (hvalue entries)
  | _ => simp only [mergeValue]

/-- What a merged table has under a key: the upper value over the lower one. -/
theorem lookup?_mergeTable {entries : Entries} (hkeys : (entries.map Prod.fst).Nodup)
    (target : Entries) (key : String) :
    lookup? key (mergeTable target entries) =
      match lookup? key entries with
      | none => lookup? key target
      | some value => some (mergeValue (lookup? key target) value) := by
  induction entries generalizing target with
  | nil => rfl
  | cons entry rest ih =>
    obtain ⟨name, value⟩ := entry
    obtain ⟨hfresh, hrest⟩ := List.nodup_cons.1 hkeys
    rw [mergeTable, ih hrest, lookup?_put, lookup?]
    by_cases hname : name = key
    · -- The key does not come again, so what was put stays.
      subst hname
      rw [(lookup?_eq_none_iff name rest).2 hfresh, if_pos rfl, if_pos rfl]
    · rw [if_neg hname, if_neg hname]

/-! ### Paths -/

/-- The value at a path of keys through nested tables. -/
def at? : List String → Setting → Option Setting
  | [], value => some value
  | key :: path, table entries => (lookup? key entries).bind (at? path)
  | _ :: _, _ => none

mutual

/-- The keys of a value are distinct, in every table that is reached through tables. -/
def DistinctKeys : Setting → Prop
  | table entries => (entries.map Prod.fst).Nodup ∧ AllDistinctKeys entries
  | _ => True

/-- The keys of all values of a table are distinct. -/
def AllDistinctKeys : List (String × Setting) → Prop
  | [] => True
  | (_, value) :: rest => DistinctKeys value ∧ AllDistinctKeys rest

end

/-- What is found in entries with distinct keys has distinct keys itself. -/
theorem AllDistinctKeys.of_lookup? {entries : Entries} (h : AllDistinctKeys entries) {key : String}
    {value : Setting} (hvalue : lookup? key entries = some value) : DistinctKeys value := by
  induction entries with
  | nil => cases hvalue
  | cons entry rest ih =>
    obtain ⟨name, first⟩ := entry
    rw [AllDistinctKeys] at h
    rw [lookup?] at hvalue
    split at hvalue
    · exact Option.some.inj hvalue ▸ h.1
    · exact ih h.2 hvalue

/-- A table leaves a path alone: it sets the path neither to a plain value nor to a table, and no
part in front of it to a plain value. -/
structure Spares (path : List String) (entries : Entries) : Prop where
  /-- No plain value stands at the path. -/
  value : ∀ value, IsPlain value → at? path (table entries) ≠ some value
  /-- No table stands at the path. -/
  table : ∀ inner, at? path (table entries) ≠ some (.table inner)
  /-- What stands in front of the path is a table. -/
  front : ∀ front, front <+: path → front ≠ path → ∀ value, IsPlain value →
    at? front (.table entries) ≠ some value

variable {entries target : Entries} {key : String} {path : List String} {value : Setting}

/-- A path leads through the entry of its first key. -/
theorem at?_cons (key : String) (path : List String) (entries : Entries) :
    at? (key :: path) (table entries) = (lookup? key entries).bind (at? path) := by
  rw [at?]

/-- The empty path is not spared: the table as a whole is at its end. -/
theorem not_spares_nil (entries : Entries) : ¬ Spares [] entries :=
  fun h => h.table entries rfl

/-- A table without the first key of a path spares it. -/
theorem spares_of_none (h : lookup? key entries = none) : Spares (key :: path) entries where
  value value _ := by simp [at?_cons, h]
  table inner := by simp [at?_cons, h]
  front front hfront hne value hvalue := by
    cases front with
    | nil => exact fun hat => hvalue entries (Option.some.inj hat).symm
    | cons name front =>
      obtain ⟨rfl, -⟩ := List.cons_prefix_cons.1 hfront
      simp [at?_cons, h]

/-- A table under the first key spares a path if it spares the rest. -/
theorem spares_cons_iff {inner : Entries} (h : lookup? key entries = some (table inner)) :
    Spares (key :: path) entries ↔ Spares path inner := by
  constructor
  · -- Each of the three conditions at the longer path is the condition at the shorter one, below
    -- the first key.
    intro hspares
    refine ⟨fun value hvalue => ?_, fun other => ?_, fun front hfront hne value hvalue => ?_⟩
    · simpa [at?_cons, h] using hspares.value value hvalue
    · simpa [at?_cons, h] using hspares.table other
    · simpa [at?_cons, h] using hspares.front (key :: front)
        (List.cons_prefix_cons.2 ⟨rfl, hfront⟩) (by simpa using hne) value hvalue
  · intro hspares
    refine ⟨fun value hvalue => ?_, fun other => ?_, fun front hfront hne value hvalue => ?_⟩
    · simpa [at?_cons, h] using hspares.value value hvalue
    · simpa [at?_cons, h] using hspares.table other
    · cases front with
      | nil => exact fun hat => hvalue entries (Option.some.inj hat).symm
      | cons name front =>
        obtain ⟨rfl, hrest⟩ := List.cons_prefix_cons.1 hfront
        simpa [at?_cons, h] using hspares.front front hrest (by simpa using hne) value hvalue

/-- A plain value under the first key does not spare any path. -/
theorem not_spares_of_plain (h : lookup? key entries = some value) (hvalue : IsPlain value) :
    ¬ Spares (key :: path) entries := by
  intro hspares
  have hat : at? [key] (table entries) = some value := by simp [h, at?]
  cases path with
  | nil => exact hspares.value value hvalue hat
  | cons next path =>
    exact hspares.front [key] (List.cons_prefix_cons.2 ⟨rfl, List.nil_prefix⟩) (by simp) value
      hvalue hat

/-- Behind a path that goes on, entries of a value that is no table are as good as none. -/
theorem at?_entriesOf (hpath : path ≠ []) (given : Option Setting) :
    at? path (table (entriesOf given)) = given.bind (at? path) := by
  obtain ⟨key, path, rfl⟩ := List.exists_cons_of_ne_nil hpath
  cases given with
  | none => simp [entriesOf, at?, lookup?]
  | some value => cases value <;> simp [entriesOf, at?, lookup?]

/-- A setting of a merged table stands in the upper table, or it stands in the lower one and the
upper one spares its path. -/
theorem at?_mergeTable (hkeys : DistinctKeys (table entries)) (hvalue : IsPlain value) :
    at? path (table (mergeTable target entries)) = some value ↔
      at? path (table entries) = some value ∨
        Spares path entries ∧ at? path (table target) = some value := by
  induction path generalizing target entries with
  | nil =>
    have hroot (entries : Entries) : at? [] (table entries) ≠ some value :=
      fun h => hvalue entries (Option.some.inj h).symm
    simp [hroot]
  | cons key path ih =>
    rw [DistinctKeys] at hkeys
    rw [at?_cons, lookup?_mergeTable hkeys.1, at?_cons, at?_cons]
    cases hupper : lookup? key entries with
    | none => simp [spares_of_none hupper]
    | some upper =>
      -- A table is merged, so the path goes on inside it; a plain value ends every path.
      by_cases htable : ∃ inner, upper = table inner
      · obtain ⟨inner, rfl⟩ := htable
        have hinner : DistinctKeys (table inner) := hkeys.2.of_lookup? hupper
        simp only [mergeValue_table, Option.bind_some]
        rw [ih hinner, spares_cons_iff hupper]
        by_cases hpath : path = []
        · subst hpath
          simp [not_spares_nil]
        · rw [at?_entriesOf hpath]
      · have hplain : IsPlain upper := fun inner h => htable ⟨inner, h⟩
        simp [mergeValue_of_isPlain hplain, not_spares_of_plain hupper hplain]

end Setting

namespace Config

open Setting

/-- A setting of merged layers comes from a layer behind which all layers spare its path, or it was
there before the first one and they all spare it. -/
theorem at?_foldl_mergeTable {path : List String} {value : Setting} (hvalue : IsPlain value)
    {layers : List Entries} (hkeys : ∀ layer ∈ layers, DistinctKeys (.table layer))
    (target : Entries) :
    at? path (.table (layers.foldl mergeTable target)) = some value ↔
      (∃ before layer after, layers = before ++ layer :: after ∧
        at? path (.table layer) = some value ∧ ∀ later ∈ after, Spares path later) ∨
      (∀ layer ∈ layers, Spares path layer) ∧ at? path (.table target) = some value := by
  induction layers generalizing target with
  | nil => simp
  | cons first rest ih =>
    obtain ⟨hfirst, hrest⟩ := List.forall_mem_cons.1 hkeys
    rw [List.foldl_cons, ih hrest, at?_mergeTable hfirst hvalue, List.forall_mem_cons]
    -- The last layer that has a value decides: it is a later one, or the first one if all later
    -- ones spare the path.
    constructor
    · rintro (⟨before, layer, after, rfl, hlayer, hafter⟩ | ⟨hspare, hlayer | ⟨hfirst, htarget⟩⟩)
      · exact .inl ⟨first :: before, layer, after, rfl, hlayer, hafter⟩
      · exact .inl ⟨[], first, rest, rfl, hlayer, hspare⟩
      · exact .inr ⟨⟨hfirst, hspare⟩, htarget⟩
    · rintro (⟨before, layer, after, hlayers, hlayer, hafter⟩ | ⟨⟨hfirst, hspare⟩, htarget⟩)
      · cases before with
        | nil =>
          obtain ⟨rfl, rfl⟩ := List.cons.inj hlayers
          exact .inr ⟨hafter, .inl hlayer⟩
        | cons other before =>
          obtain ⟨rfl, rfl⟩ := List.cons.inj hlayers
          exact .inl ⟨before, layer, after, rfl, hlayer, hafter⟩
      · exact .inr ⟨hspare, .inr ⟨hfirst, htarget⟩⟩

/-- A setting comes from a layer behind which all layers spare its path. -/
theorem at?_mergeAll {path : List String} {value : Setting} (hvalue : IsPlain value)
    {layers : List Entries} (hkeys : ∀ layer ∈ layers, DistinctKeys (.table layer)) :
    at? path (.table (mergeAll layers)) = some value ↔
      ∃ before layer after, layers = before ++ layer :: after ∧
        at? path (.table layer) = some value ∧ ∀ later ∈ after, Spares path later := by
  have hempty : at? path (.table []) ≠ some value := by
    cases path with
    | nil => exact fun h => hvalue [] (Option.some.inj h).symm
    | cons key path => simp [at?, lookup?]
  rw [mergeAll, at?_foldl_mergeTable hvalue hkeys]
  simp [hempty]

end Config

end ChangeLens
