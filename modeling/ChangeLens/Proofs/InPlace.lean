import ChangeLens.Proofs.Layering
import Mathlib.Data.List.Forall2
import Mathlib.Data.List.Nodup

/-!
# `ChangeLens.Proofs.InPlace`: merging layers in place

`Setting.mergeTable` gives a new table. A run changes tables where they are: a table of a `Store` has
a place, and its nested tables are known by their places. `Lays` says what laying one stored table
over another one does to the store: a table over a table is laid over it where it is, a table over
anything else is laid over an empty table at a free place, and a value is written.

* `Pinned` is a value with the places of its tables; `Pinned.Stored` says that a store has it.
* `Store.Owns`: a store has a value, and no two of its tables are at one place.
* `Store.Grows`: from one store to another one, nothing changes but at given places.
* `Store.Owns.replace` is the step: a key of an owned table is set to a value that stands in new
  places and those of the value before. `exists_lays` is the run over one layer, `LaysAll.owns` the
  run over all of them. Both say that there is a run; there is only one (`Lays.unique`).
* `Config.mergeAll_by_priority`: where each setting of merged layers comes from, and that merging
  them in place gives that table without changing one that was there before.
-/

set_option autoImplicit false

namespace ChangeLens

open Setting (IsPlain mergeTable mergeValue)

/-! ### Stored tables -/

/-- What a stored table has under a key. -/
inductive Slot where
  /-- A value that is no table. -/
  | plain (value : Setting)
  /-- The table at a place. -/
  | table (place : Nat)

/-- Sets a key: in its place if there is one, else at the end. -/
def putKey {α : Type} (key : String) (value : α) : List (String × α) → List (String × α)
  | [] => [(key, value)]
  | (name, old) :: rest =>
    if name = key then (key, value) :: rest else (name, old) :: putKey key value rest

/-- Giving a key the value it has changes nothing. -/
theorem putKey_eq_self {α : Type} {key : String} {value : α} {entries : List (String × α)}
    (h : entries.lookup key = some value) : putKey key value entries = entries := by
  induction entries with
  | nil => cases h
  | cons entry rest ih =>
    obtain ⟨name, old⟩ := entry
    rw [putKey]
    rw [List.lookup_cons] at h
    -- The key is the one that is put, which has the value already, or it is further on.
    by_cases hname : name = key
    · subst hname
      obtain rfl : old = value := by simpa using h
      rw [if_pos rfl]
    · rw [beq_false_of_ne (Ne.symm hname)] at h
      rw [if_neg hname, ih h]

/-- Tables at places. -/
structure Store where
  /-- The table at a place. -/
  tables : Nat → List (String × Slot)
  /-- The places from this one on are free. -/
  next : Nat

namespace Store

/-- Sets a key of the table at a place. -/
def write (store : Store) (place : Nat) (key : String) (slot : Slot) : Store where
  tables other := if other = place then putKey key slot (store.tables place) else store.tables other
  next := store.next

/-- Puts an empty table at the first free place. -/
def allocate (store : Store) : Store where
  tables other := if other = store.next then [] else store.tables other
  next := store.next + 1

/-- A new table takes the next place. -/
theorem allocate_next (store : Store) : store.allocate.next = store.next + 1 := rfl

/-- What a table is after writing to it. -/
theorem write_same (store : Store) (place : Nat) (key : String) (slot : Slot) :
    (store.write place key slot).tables place = putKey key slot (store.tables place) := by
  simp [write]

/-- Writing to a table leaves all other ones alone. -/
theorem write_other (store : Store) {place other : Nat} (h : other ≠ place) (key : String)
    (slot : Slot) : (store.write place key slot).tables other = store.tables other := by
  simp [write, h]

/-- Writing what a key has already changes nothing. -/
theorem write_eq_self {store : Store} {place : Nat} {key : String} {slot : Slot}
    (h : (store.tables place).lookup key = some slot) : store.write place key slot = store := by
  have htables (other : Nat) : (store.write place key slot).tables other = store.tables other := by
    by_cases hother : other = place
    · rw [hother, write_same, putKey_eq_self h]
    · exact write_other store hother key slot
  cases store
  exact congrArg (Store.mk · _) (funext htables)

/-- A new table is empty. -/
theorem allocate_same (store : Store) : store.allocate.tables store.next = [] := by
  simp [allocate]

/-- Making a table leaves all other ones alone. -/
theorem allocate_other (store : Store) {other : Nat} (h : other ≠ store.next) :
    store.allocate.tables other = store.tables other := by
  simp [allocate, h]

end Store

/-- Laying entries over the table at a place. -/
inductive Lays : Store → Nat → List (String × Slot) → Store → Prop where
  /-- There is nothing left to lay. -/
  | done (store : Store) (target : Nat) : Lays store target [] store
  /-- A value is written. -/
  | plain {store final : Store} {target : Nat} {key : String} {value : Setting}
      {rest : List (String × Slot)} (tail : Lays (store.write target key (.plain value)) target rest
        final) : Lays store target ((key, .plain value) :: rest) final
  /-- A table over a table is laid over it where it is. -/
  | onto {store middle final : Store} {target source existing : Nat} {key : String}
      {rest : List (String × Slot)} (here : (store.tables target).lookup key = some (.table existing))
      (head : Lays store existing (store.tables source) middle) (tail : Lays middle target rest final) :
      Lays store target ((key, .table source) :: rest) final
  /-- A table over anything else is laid over an empty table, and that is written. -/
  | fresh {store middle final : Store} {target source : Nat} {key : String}
      {rest : List (String × Slot)}
      (here : ∀ existing, (store.tables target).lookup key ≠ some (.table existing))
      (head : Lays store.allocate store.next (store.tables source) middle)
      (tail : Lays (middle.write target key (.table store.next)) target rest final) :
      Lays store target ((key, .table source) :: rest) final

/-- Laying stored tables over the table at a place, one after another. -/
inductive LaysAll : Store → Nat → List Nat → Store → Prop where
  /-- There is no table left. -/
  | done (store : Store) (target : Nat) : LaysAll store target [] store
  /-- The first table is laid before the others. -/
  | layer {store middle final : Store} {target place : Nat} {places : List Nat}
      (head : Lays store target (store.tables place) middle)
      (tail : LaysAll middle target places final) : LaysAll store target (place :: places) final

/-- Laying stored tables over an empty table at the first free place. -/
def Store.Merges (store : Store) (places : List Nat) (final : Store) : Prop :=
  LaysAll store.allocate store.next places final

/-! ### Values with places -/

/-- A value with the places of its tables. -/
inductive Pinned where
  /-- A value that is no table. -/
  | plain (value : Setting)
  /-- A table at a place. -/
  | table (place : Nat) (entries : List (String × Pinned))

namespace Pinned

mutual

/-- The value without places. -/
def setting : Pinned → Setting
  | plain value => value
  | table _ entries => .table (settings entries)

/-- The entries without places. -/
def settings : List (String × Pinned) → Entries
  | [] => []
  | (key, pinned) :: rest => (key, setting pinned) :: settings rest

end

mutual

/-- The places of the tables of a value. -/
def places : Pinned → List Nat
  | plain _ => []
  | table place entries => place :: allPlaces entries

/-- The places of the tables of all values. -/
def allPlaces : List (String × Pinned) → List Nat
  | [] => []
  | (_, pinned) :: rest => places pinned ++ allPlaces rest

end

/-- What a stored table has for a value. -/
def slot : Pinned → Slot
  | plain value => .plain value
  | table place _ => .table place

/-- A stored table with these entries. -/
def slots (entries : List (String × Pinned)) : List (String × Slot) :=
  entries.map fun (key, pinned) => (key, pinned.slot)

mutual

/-- A store has a value: its tables are where it says. -/
def Stored (store : Store) : Pinned → Prop
  | plain value => IsPlain value
  | table place entries => store.tables place = slots entries ∧ AllStored store entries

/-- A store has all values. -/
def AllStored (store : Store) : List (String × Pinned) → Prop
  | [] => True
  | (_, pinned) :: rest => Stored store pinned ∧ AllStored store rest

end

variable {store other : Store} {entries : List (String × Pinned)} {pinned : Pinned} {key : String}

mutual

/-- A store that has the same tables at the places of a value has the value as well. -/
theorem Stored.congr {pinned : Pinned} (h : Stored store pinned)
    (hsame : ∀ place ∈ places pinned, other.tables place = store.tables place) :
    Stored other pinned := by
  cases pinned with
  | plain value => exact h
  | table place entries =>
    rw [places, List.forall_mem_cons] at hsame
    exact ⟨hsame.1.trans h.1, AllStored.congr h.2 hsame.2⟩

/-- A store that has the same tables at the places of all values has the values as well. -/
theorem AllStored.congr {entries : List (String × Pinned)} (h : AllStored store entries)
    (hsame : ∀ place ∈ allPlaces entries, other.tables place = store.tables place) :
    AllStored other entries := by
  match entries with
  | [] => trivial
  | (_, pinned) :: rest =>
    rw [allPlaces, List.forall_mem_append] at hsame
    exact ⟨Stored.congr h.1 hsame.1, AllStored.congr h.2 hsame.2⟩

end

/-! ### One key -/

/-- The first entry says nothing about another key. -/
theorem lookup_cons_of_ne {name : String} (h : name ≠ key) (first : Pinned)
    (rest : List (String × Pinned)) : ((name, first) :: rest).lookup key = rest.lookup key := by
  rw [List.lookup_cons, beq_false_of_ne h.symm]

/-- A key is looked up in a stored table as in the value it stores. -/
theorem lookup_slots (key : String) (entries : List (String × Pinned)) :
    (slots entries).lookup key = (entries.lookup key).map slot := by
  induction entries with
  | nil => rfl
  | cons entry rest ih =>
    obtain ⟨name, pinned⟩ := entry
    rw [slots, List.map_cons, ← slots, List.lookup_cons, List.lookup_cons, ih]
    cases key == name <;> rfl

/-- A key is looked up in a value as in the value with places. -/
theorem lookup?_settings (key : String) (entries : List (String × Pinned)) :
    Setting.lookup? key (settings entries) = (entries.lookup key).map setting := by
  induction entries with
  | nil => rfl
  | cons entry rest ih =>
    obtain ⟨name, pinned⟩ := entry
    by_cases hname : name = key
    · simp [settings, Setting.lookup?, hname]
    · simpa [settings, Setting.lookup?, hname, lookup_cons_of_ne hname] using ih

/-- Giving a key a value is writing its slot. -/
theorem slots_putKey (key : String) (pinned : Pinned) (entries : List (String × Pinned)) :
    slots (putKey key pinned entries) = putKey key pinned.slot (slots entries) := by
  induction entries with
  | nil => rfl
  | cons entry rest ih =>
    obtain ⟨name, old⟩ := entry
    by_cases hname : name = key
    · simp [slots, putKey, hname]
    · simpa [slots, putKey, hname] using ih

/-- Giving a key a value is putting the value without its places. -/
theorem settings_putKey (key : String) (pinned : Pinned) (entries : List (String × Pinned)) :
    settings (putKey key pinned entries) = Setting.put key pinned.setting (settings entries) := by
  induction entries with
  | nil => rfl
  | cons entry rest ih =>
    obtain ⟨name, old⟩ := entry
    by_cases hname : name = key
    · simp [settings, putKey, Setting.put, hname]
    · simpa [settings, putKey, Setting.put, hname] using ih

/-- The places of what a key has. -/
def placesAt (key : String) (entries : List (String × Pinned)) : List Nat :=
  ((entries.lookup key).map places).getD []

/-- Setting a key trades the places of its old value for those of the new one. -/
theorem count_allPlaces_putKey (key : String) (pinned : Pinned) (entries : List (String × Pinned))
    (place : Nat) :
    (allPlaces (putKey key pinned entries)).count place + (placesAt key entries).count place =
      (allPlaces entries).count place + pinned.places.count place := by
  induction entries with
  | nil => simp [putKey, allPlaces, placesAt]
  | cons entry rest ih =>
    obtain ⟨name, old⟩ := entry
    by_cases hname : name = key
    · simp [putKey, allPlaces, placesAt, hname]
      omega
    · have hat : placesAt key ((name, old) :: rest) = placesAt key rest := by
        rw [placesAt, lookup_cons_of_ne hname, ← placesAt]
      rw [hat, putKey, if_neg hname, allPlaces, allPlaces, List.count_append, List.count_append]
      omega

/-- The places after a key is set are places from before or those of the new value. -/
theorem mem_allPlaces_putKey {place : Nat} (h : place ∈ allPlaces (putKey key pinned entries)) :
    place ∈ allPlaces entries ∨ place ∈ pinned.places := by
  have htrade := count_allPlaces_putKey key pinned entries place
  have hpos := List.count_pos_iff.2 h
  rw [← List.count_pos_iff, ← List.count_pos_iff]
  omega

/-- No place occurs twice after a key is set, if those of the new value are new or were those of the
old one. -/
theorem nodup_allPlaces_putKey (hentries : (allPlaces entries).Nodup) (hpinned : pinned.places.Nodup)
    (h : ∀ place ∈ pinned.places, place ∈ placesAt key entries ∨ place ∉ allPlaces entries) :
    (allPlaces (putKey key pinned entries)).Nodup := by
  refine List.nodup_iff_count_le_one.2 fun place => ?_
  -- Places are counted: putting a value trades those of the old one for those of the new one.
  have htrade := count_allPlaces_putKey key pinned entries place
  have hone := List.nodup_iff_count_le_one.1 hentries place
  have hone' := List.nodup_iff_count_le_one.1 hpinned place
  by_cases hin : place ∈ pinned.places
  · rcases h place hin with hold | hnew
    · have := List.count_pos_iff.2 hold
      omega
    · have := List.count_eq_zero.2 hnew
      omega
  · have := List.count_eq_zero.2 hin
    omega

/-- The places of a nested value are among those of the table. -/
theorem sublist_allPlaces (h : entries.lookup key = some pinned) :
    pinned.places.Sublist (allPlaces entries) := by
  induction entries with
  | nil => cases h
  | cons entry rest ih =>
    obtain ⟨name, first⟩ := entry
    rw [allPlaces]
    by_cases hname : name = key
    · subst hname
      obtain rfl : first = pinned := by simpa using h
      exact List.sublist_append_left _ _
    · rw [lookup_cons_of_ne hname] at h
      exact (ih h).trans (List.sublist_append_right _ _)

/-- So are the places at a key, whether there is a value or not. -/
theorem placesAt_sublist (key : String) (entries : List (String × Pinned)) :
    (placesAt key entries).Sublist (allPlaces entries) := by
  rw [placesAt]
  cases h : entries.lookup key with
  | none => exact List.nil_sublist _
  | some pinned => exact sublist_allPlaces h

/-- A value found in a stored table is stored. -/
theorem AllStored.of_lookup (h : AllStored store entries) (hkey : entries.lookup key = some pinned) :
    Stored store pinned := by
  induction entries with
  | nil => cases hkey
  | cons entry rest ih =>
    obtain ⟨name, first⟩ := entry
    by_cases hname : name = key
    · subst hname
      obtain rfl : first = pinned := by simpa using hkey
      exact h.1
    · exact ih h.2 (lookup_cons_of_ne hname first rest ▸ hkey)

/-- After a key is set, a store has all values if it has the new one and changed nothing but at the
places of the old one. -/
theorem AllStored.putKey (h : AllStored store entries) (hnodup : (allPlaces entries).Nodup)
    (hpinned : Stored other pinned) (hsame : ∀ place ∈ allPlaces entries,
      place ∉ placesAt key entries → other.tables place = store.tables place) :
    AllStored other (putKey key pinned entries) := by
  induction entries with
  | nil => exact ⟨hpinned, trivial⟩
  | cons entry rest ih =>
    obtain ⟨name, old⟩ := entry
    rw [allPlaces, List.nodup_append] at hnodup
    obtain ⟨-, hnodup, hdisjoint⟩ := hnodup
    rw [allPlaces, List.forall_mem_append] at hsame
    rw [ChangeLens.putKey]
    by_cases hname : name = key
    · -- The value is exchanged here; what follows has other places than the old one had.
      subst hname
      have hat : placesAt name ((name, old) :: rest) = old.places := by simp [placesAt]
      rw [hat] at hsame
      rw [if_pos rfl]
      exact ⟨hpinned, h.2.congr fun place hplace =>
        hsame.2 place hplace fun hold => hdisjoint place hold place hplace rfl⟩
    · -- The value is exchanged further on, at places that are not those of this entry.
      have hat : placesAt key ((name, old) :: rest) = placesAt key rest := by
        rw [placesAt, lookup_cons_of_ne hname, ← placesAt]
      rw [hat] at hsame
      rw [if_neg hname]
      refine ⟨h.1.congr fun place hplace => hsame.1 place hplace fun hrest => ?_,
        ih h.2 hnodup hsame.2⟩
      exact hdisjoint place hplace place ((placesAt_sublist key rest).subset hrest) rfl

end Pinned

/-! ### Owning -/

namespace Store

/-- A store has a value and no two of its tables are at one place. -/
structure Owns (store : Store) (pinned : Pinned) : Prop where
  /-- The store has the value. -/
  stored : Pinned.Stored store pinned
  /-- No two tables are at one place. -/
  nodup : pinned.places.Nodup
  /-- No place is free. -/
  taken : ∀ place ∈ pinned.places, place < store.next

/-- From one store to another one, places are taken and nothing else changes but at some places; the
places then in use were among them or are new. -/
structure Grows (store : Store) (places : List Nat) (final : Store) (after : List Nat) : Prop where
  /-- No place gets free. -/
  next_le : store.next ≤ final.next
  /-- The places then in use were among those that change, or are new. -/
  known : ∀ place ∈ after, place ∈ places ∨ store.next ≤ place
  /-- At the other places nothing changes. -/
  kept : ∀ place < store.next, place ∉ places → final.tables place = store.tables place

variable {store middle final : Store} {places between after : List Nat}

/-- A store that stays as it is grows by nothing. -/
theorem Grows.refl (store : Store) (places : List Nat) : store.Grows places store places where
  next_le := Nat.le_refl _
  known _ hplace := .inl hplace
  kept _ _ _ := rfl

/-- A store that grows twice grows. -/
theorem Grows.trans (h : store.Grows places middle between)
    (h' : middle.Grows between final after) : store.Grows places final after where
  next_le := Nat.le_trans h.next_le h'.next_le
  known place hplace := by
    rcases h'.known place hplace with hbetween | hnew
    · exact h.known place hbetween
    · exact .inr (Nat.le_trans h.next_le hnew)
  kept place htaken hplace := by
    have hbetween : place ∉ between := fun hin =>
      (h.known place hin).elim hplace fun hnew => by omega
    rw [h'.kept place (Nat.lt_of_lt_of_le htaken h.next_le) hbetween, h.kept place htaken hplace]

/-- A new table is a place that was not known before. -/
theorem grows_allocate (store : Store) (places : List Nat) :
    store.Grows places store.allocate [store.next] where
  next_le := Nat.le_succ _
  known _ hplace := .inr (Nat.le_of_eq (List.mem_singleton.1 hplace).symm)
  kept _ htaken _ := store.allocate_other (Nat.ne_of_lt htaken)

/-- A new table is owned, and so are its places, of which there are none yet. -/
theorem owns_allocate (store : Store) : store.allocate.Owns (.table store.next []) where
  stored := ⟨store.allocate_same, trivial⟩
  nodup := List.nodup_singleton _
  taken place hplace := by
    rw [List.mem_singleton.1 hplace, allocate_next]
    omega

variable {target : Nat} {entries : List (String × Pinned)} {pinned : Pinned} {key : String}

/-- What an owned table has under a key is owned. -/
theorem Owns.nested (h : store.Owns (.table target entries)) (hkey : entries.lookup key = some pinned) :
    store.Owns pinned where
  stored := Pinned.AllStored.of_lookup h.stored.2 hkey
  nodup := (List.nodup_cons.1 h.nodup).2.sublist (Pinned.sublist_allPlaces hkey)
  taken place hplace :=
    h.taken place (List.mem_cons_of_mem _ ((Pinned.sublist_allPlaces hkey).subset hplace))

/-- What does not change while a value is built stays when a key is set to it elsewhere. -/
theorem Grows.tables_write (h : store.Grows places middle after) {place : Nat}
    (htaken : place < store.next) (hout : place ∉ places) (hne : place ≠ target) (slot : Slot) :
    (middle.write target key slot).tables place = store.tables place := by
  rw [middle.write_other hne, h.kept place htaken hout]

/-- A key of an owned table is set to a value that was built in new places and those of the value
the key had before: the store owns the table with that key. -/
theorem Owns.replace (h : store.Owns (.table target entries)) (hpinned : middle.Owns pinned)
    (hgrows : store.Grows (Pinned.placesAt key entries) middle pinned.places) :
    (middle.write target key pinned.slot).Owns (.table target (putKey key pinned entries)) := by
  obtain ⟨hfresh, hnodup⟩ := List.nodup_cons.1 h.nodup
  obtain ⟨htarget, htaken⟩ := List.forall_mem_cons.1 h.taken
  have hold := (Pinned.placesAt_sublist key entries).subset
  have hle := hgrows.next_le
  -- The table itself is in none of the places of the new value, so writing it leaves that alone.
  have hnew : target ∉ pinned.places := fun hin =>
    (hgrows.known target hin).elim (fun hin => hfresh (hold hin)) fun hnew => by omega
  refine ⟨⟨?_, ?_⟩, List.nodup_cons.2 ⟨fun hin => ?_, ?_⟩,
    List.forall_mem_cons.2 ⟨Nat.lt_of_lt_of_le htarget hle, fun place hplace => ?_⟩⟩
  · rw [middle.write_same, hgrows.kept target htarget fun hin => hfresh (hold hin), h.stored.1,
      Pinned.slots_putKey]
  · refine Pinned.AllStored.putKey h.stored.2 hnodup
      (hpinned.stored.congr fun place hplace => middle.write_other ?_ _ _)
      fun place hplace hout => hgrows.tables_write (htaken place hplace) hout ?_ _
    · rintro rfl
      exact hnew hplace
    · rintro rfl
      exact hfresh hplace
  · exact (Pinned.mem_allPlaces_putKey hin).elim hfresh hnew
  · refine Pinned.nodup_allPlaces_putKey hnodup hpinned.nodup fun place hplace => ?_
    refine (hgrows.known place hplace).imp_right fun hnew hin => ?_
    have := htaken place hin
    omega
  · rcases Pinned.mem_allPlaces_putKey hplace with hin | hin
    · exact Nat.lt_of_lt_of_le (htaken place hin) hle
    · exact hpinned.taken place hin

/-- Nothing changes then but at the places of the table. -/
theorem Owns.grows_replace (h : store.Owns (.table target entries))
    (hgrows : store.Grows (Pinned.placesAt key entries) middle pinned.places) :
    store.Grows (target :: Pinned.allPlaces entries) (middle.write target key pinned.slot)
      (target :: Pinned.allPlaces (putKey key pinned entries)) := by
  have hold := (Pinned.placesAt_sublist key entries).subset
  refine ⟨hgrows.next_le, fun place hplace => ?_, fun place hplace hout => ?_⟩
  · rcases List.mem_cons.1 hplace with rfl | hin
    · exact .inl List.mem_cons_self
    · rcases Pinned.mem_allPlaces_putKey hin with hin | hin
      · exact .inl (List.mem_cons_of_mem _ hin)
      · exact (hgrows.known place hin).imp_left fun hin => List.mem_cons_of_mem _ (hold hin)
  · obtain ⟨hne, hout⟩ := not_or.1 (fun hin => hout (List.mem_cons.2 hin))
    exact hgrows.tables_write hplace (fun hin => hout (hold hin)) hne _

/-- A store has entries, none of them at places that may change. -/
structure Reads (store : Store) (places : List Nat) (source : List (String × Pinned)) : Prop where
  /-- The store has the entries. -/
  stored : Pinned.AllStored store source
  /-- Their places are taken and do not change. -/
  apart : ∀ place ∈ Pinned.allPlaces source, place < store.next ∧ place ∉ places

variable {source rest : List (String × Pinned)}

/-- What is read stays so while the store grows in places that are not read. -/
theorem Reads.grow (h : store.Reads places source) (hgrows : store.Grows places final after) :
    final.Reads after source where
  stored := h.stored.congr fun place hplace =>
    hgrows.kept place (h.apart place hplace).1 (h.apart place hplace).2
  apart place hplace := by
    obtain ⟨htaken, hout⟩ := h.apart place hplace
    have hle := hgrows.next_le
    exact ⟨by omega, fun hin => (hgrows.known place hin).elim hout fun hnew => by omega⟩

/-- Behind the first entry the rest is read. -/
theorem Reads.tail (h : store.Reads places ((key, pinned) :: rest)) : store.Reads places rest where
  stored := h.stored.2
  apart place hplace := h.apart place (List.mem_append_right _ hplace)

/-- The entries of a nested table are read as well, and fewer places may change. -/
theorem Reads.nested {place : Nat} {inner : List (String × Pinned)}
    (h : store.Reads places ((key, .table place inner) :: rest)) (hsub : between ⊆ places) :
    store.Reads between inner where
  stored := h.stored.1.2
  apart other hother := by
    obtain ⟨htaken, hout⟩ := h.apart other
      (List.mem_append_left _ (List.mem_cons_of_mem _ hother))
    exact ⟨htaken, fun hin => hout (hsub hin)⟩

/-! ### Laying -/

/-- What a store has after entries were laid over an owned table: it owns the merged table, and
changed nothing but at the places of that table. -/
def Laid (store : Store) (target : Nat) (entries source : List (String × Pinned)) (final : Store) :
    Prop :=
  ∃ after, Pinned.settings after = mergeTable (Pinned.settings entries) (Pinned.settings source) ∧
    final.Owns (.table target after) ∧
    store.Grows (target :: Pinned.allPlaces entries) final (target :: Pinned.allPlaces after)

/-- One entry is laid by setting its key to the merged value. -/
theorem Owns.laid (h : store.Owns (.table target entries)) (hpinned : middle.Owns pinned)
    (hgrows : store.Grows (Pinned.placesAt key entries) middle pinned.places) {upper : Pinned}
    (hmerged : pinned.setting =
      mergeValue ((entries.lookup key).map Pinned.setting) upper.setting) :
    store.Laid target entries [(key, upper)] (middle.write target key pinned.slot) := by
  refine ⟨putKey key pinned entries, ?_, h.replace hpinned hgrows, h.grows_replace hgrows⟩
  rw [Pinned.settings_putKey, hmerged, ← Pinned.lookup?_settings]
  simp only [Pinned.settings, mergeTable]

/-- Laying a plain value over a table writes it at its key. -/
theorem laid_plain (h : store.Owns (.table target entries)) (key : String) {value : Setting}
    (hvalue : IsPlain value) :
    store.Laid target entries [(key, .plain value)] (store.write target key (.plain value)) := by
  have hplain : store.Owns (.plain value) := ⟨hvalue, List.nodup_nil, fun _ => List.not_mem_nil.elim⟩
  have hgrows : store.Grows (Pinned.placesAt key entries) store [] :=
    ⟨Nat.le_refl _, fun _ => List.not_mem_nil.elim, fun _ _ _ => rfl⟩
  refine h.laid hplain hgrows ?_
  simp only [Pinned.setting, Setting.mergeValue_of_isPlain hvalue]

/-- Laying a table over a table lays it over the one at its key, in place. -/
theorem laid_onto (h : store.Owns (.table target entries)) (place : Nat) {existing : Nat}
    {below inner : List (String × Pinned)} (hkey : entries.lookup key = some (.table existing below))
    (hinner : store.Laid existing below inner middle) :
    store.Laid target entries [(key, .table place inner)] middle := by
  obtain ⟨merged, hsettings, howns, hgrows⟩ := hinner
  -- The places of the key are those of the table that is there.
  have hat : Pinned.placesAt key entries = existing :: Pinned.allPlaces below := by
    rw [Pinned.placesAt, hkey]
    rfl
  have hlaid : store.Laid target entries [(key, .table place inner)]
      (middle.write target key (.table existing)) := by
    refine h.laid howns (hat ▸ hgrows) ?_
    rw [hkey]
    simp only [Pinned.setting, Option.map_some, Setting.mergeValue_table, Setting.entriesOf,
      hsettings]
  -- The key has that table already.
  have htarget : middle.tables target = store.tables target := by
    refine hgrows.kept target (h.taken target List.mem_cons_self) fun hin => ?_
    exact (List.nodup_cons.1 h.nodup).1 ((Pinned.sublist_allPlaces hkey).subset hin)
  rwa [write_eq_self] at hlaid
  rw [htarget, h.stored.1, Pinned.lookup_slots, hkey]
  rfl

/-- Laying a table where there is none lays it over a new empty one, which is then written at its
key. -/
theorem laid_fresh (h : store.Owns (.table target entries)) (place : Nat)
    {inner : List (String × Pinned)}
    (hkey : ∀ existing below, entries.lookup key ≠ some (.table existing below))
    (hinner : store.allocate.Laid store.next [] inner middle) :
    store.Laid target entries [(key, .table place inner)]
      (middle.write target key (.table store.next)) := by
  obtain ⟨merged, hsettings, howns, hgrows⟩ := hinner
  refine h.laid howns ((store.grows_allocate _).trans hgrows) ?_
  -- What is no table is as good as an empty one.
  have hbelow : Setting.entriesOf ((entries.lookup key).map Pinned.setting) = [] := by
    cases hlookup : entries.lookup key with
    | none => rfl
    | some old =>
      cases old with
      | plain value =>
        have hvalue : IsPlain value := (h.nested hlookup).stored
        rw [Option.map_some, Pinned.setting]
        cases value with
        | table entries => exact absurd rfl (hvalue entries)
        | _ => rfl
      | table existing below => exact absurd hlookup (hkey existing below)
  simp only [Pinned.setting, Setting.mergeValue_table, hbelow, hsettings, Pinned.settings]

/-- Entries are laid one after another. -/
theorem Laid.trans {first : String × Pinned} (h : store.Laid target entries [first] middle)
    (hrest : ∀ after, middle.Owns (.table target after) →
      store.Grows (target :: Pinned.allPlaces entries) middle (target :: Pinned.allPlaces after) →
      ∃ final, Lays middle target (Pinned.slots rest) final ∧ middle.Laid target after rest final) :
    ∃ final, Lays middle target (Pinned.slots rest) final ∧
      store.Laid target entries (first :: rest) final := by
  obtain ⟨between, hbetween, howns, hgrows⟩ := h
  obtain ⟨final, hlays, after, hafter, howns', hgrows'⟩ := hrest between howns hgrows
  refine ⟨final, hlays, after, ?_, howns', hgrows.trans hgrows'⟩
  rw [hafter, hbetween]
  simp only [Pinned.settings, mergeTable]

end Store

/-- Entries of a store can be laid over an owned table, and the store then owns the merged table. -/
theorem exists_lays {store : Store} {target : Nat} {entries source : List (String × Pinned)}
    (howns : store.Owns (.table target entries))
    (hreads : store.Reads (target :: Pinned.allPlaces entries) source) :
    ∃ final, Lays store target (Pinned.slots source) final ∧
      store.Laid target entries source final := by
  -- The recursion is on the source, nested tables first. The cases are those of `Lays`; the target
  -- changes on the way, the source does not.
  match source with
  | [] => exact ⟨store, .done store target, entries, rfl, howns, .refl _ _⟩
  | (key, .plain value) :: rest =>
    have hfirst := Store.laid_plain howns key hreads.stored.1
    obtain ⟨final, hlays, hlaid⟩ := hfirst.trans fun after howns' hgrows =>
      exists_lays howns' (hreads.tail.grow hgrows)
    exact ⟨final, .plain hlays, hlaid⟩
  | (key, .table place inner) :: rest =>
    have hrow : store.tables place = Pinned.slots inner := hreads.stored.1.1
    -- A table is merged into the one that the target has at the key, or into a fresh one.
    by_cases hkey : ∃ existing below, entries.lookup key = some (.table existing below)
    · obtain ⟨existing, below, hkey⟩ := hkey
      have hsub := (Pinned.sublist_allPlaces hkey).subset
      obtain ⟨middle, hhead, hinner⟩ := exists_lays (howns.nested hkey)
        (hreads.nested fun place hplace => List.mem_cons_of_mem _ (hsub hplace))
      have hfirst := Store.laid_onto howns place hkey hinner
      obtain ⟨final, hlays, hlaid⟩ := hfirst.trans fun after howns' hgrows =>
        exists_lays howns' (hreads.tail.grow hgrows)
      refine ⟨final, .onto ?_ (hrow ▸ hhead) hlays, hlaid⟩
      rw [howns.stored.1, Pinned.lookup_slots, hkey]
      rfl
    · have hkey' (existing : Nat) (below : List (String × Pinned)) :
          entries.lookup key ≠ some (.table existing below) := fun h => hkey ⟨existing, below, h⟩
      obtain ⟨middle, hhead, hinner⟩ := exists_lays store.owns_allocate
        ((hreads.nested (List.Subset.refl _)).grow (store.grows_allocate _))
      have hfirst := Store.laid_fresh howns place hkey' hinner
      obtain ⟨final, hlays, hlaid⟩ := hfirst.trans fun after howns' hgrows =>
        exists_lays howns' (hreads.tail.grow hgrows)
      refine ⟨final, .fresh (fun existing hat => ?_) (hrow ▸ hhead) hlays, hlaid⟩
      rw [howns.stored.1, Pinned.lookup_slots, Option.map_eq_some_iff] at hat
      obtain ⟨old, hold, hslot⟩ := hat
      cases old with
      | plain value => cases hslot
      | table other below => exact hkey' other below hold
termination_by sizeOf source

/-- There is one way to lay entries over a table. -/
theorem Lays.unique {store final other : Store} {target : Nat} {row : List (String × Slot)}
    (h : Lays store target row final) (h' : Lays store target row other) : final = other := by
  -- Each step says which way the next one goes: by the source, and by what the target has at the
  -- key.
  induction h generalizing other with
  | done => cases h'; rfl
  | plain _ ih =>
    cases h' with
    | plain tail => exact ih tail
  | onto here _ _ ihhead ihtail =>
    cases h' with
    | onto here' head tail =>
      obtain ⟨⟩ := Option.some.inj (here.symm.trans here')
      obtain rfl := ihhead head
      exact ihtail tail
    | fresh here' => exact absurd here (here' _)
  | fresh here _ _ ihhead ihtail =>
    cases h' with
    | onto here' => exact absurd here' (here _)
    | fresh _ head tail =>
      obtain rfl := ihhead head
      exact ihtail tail

/-! ### Layers -/

/-- A store has a table at a place, and its tables are in an area. -/
def Store.Holds (store : Store) (area : Nat → Prop) (place : Nat) (entries : Entries) : Prop :=
  ∃ pinned, Pinned.settings pinned = entries ∧ Pinned.Stored store (.table place pinned) ∧
    ∀ other ∈ (Pinned.table place pinned).places, area other

/-- A table is held as long as nothing changes in its area. -/
theorem Store.Holds.congr {store other : Store} {area : Nat → Prop} {place : Nat} {entries : Entries}
    (h : store.Holds area place entries)
    (hsame : ∀ place, area place → other.tables place = store.tables place) :
    other.Holds area place entries := by
  obtain ⟨pinned, hsettings, hstored, harea⟩ := h
  exact ⟨pinned, hsettings, hstored.congr fun place hplace => hsame place (harea place hplace), harea⟩

/-- Layers can be laid over an owned table one after another. The store then owns the table that the
layers give, and changed nothing but at the places of the first one. -/
theorem LaysAll.owns {places : List Nat} {layers : List Entries} {store : Store} {target : Nat}
    {entries : List (String × Pinned)} {area : Nat → Prop} (howns : store.Owns (.table target entries))
    (harea : ∀ place, area place → place < store.next ∧ place ∉ target :: Pinned.allPlaces entries)
    (hlayers : List.Forall₂ (store.Holds area) places layers) :
    (∃ final, LaysAll store target places final) ∧ ∀ final, LaysAll store target places final →
      ∃ after, Pinned.settings after = layers.foldl mergeTable (Pinned.settings entries) ∧
        final.Owns (.table target after) ∧
        store.Grows (target :: Pinned.allPlaces entries) final
          (target :: Pinned.allPlaces after) := by
  induction places generalizing store entries layers with
  | nil =>
    cases hlayers
    refine ⟨⟨store, .done store target⟩, fun final hfinal => ?_⟩
    cases hfinal
    exact ⟨entries, rfl, howns, .refl _ _⟩
  | cons place places ih =>
    obtain ⟨layer, layers, hlayer, hrest, rfl⟩ := List.forall₂_cons_left_iff.1 hlayers
    obtain ⟨source, rfl, hstored, hplaces⟩ := hlayer
    have hreads : store.Reads (target :: Pinned.allPlaces entries) source :=
      ⟨hstored.2, fun other hother => harea other (hplaces other (List.mem_cons_of_mem _ hother))⟩
    -- The first layer is laid, and it leaves all places of the other layers alone.
    obtain ⟨middle, hlays, between, hbetween, howns', hgrows⟩ := exists_lays howns hreads
    rw [← hstored.1] at hlays
    -- The layers behind are read in the new store as they were in the old one.
    have hrest' : List.Forall₂ (middle.Holds area) places layers := hrest.imp fun _ _ hholds =>
      hholds.congr fun other hother => hgrows.kept other (harea other hother).1 (harea other hother).2
    have harea' (other : Nat) (hother : area other) :
        other < middle.next ∧ other ∉ target :: Pinned.allPlaces between := by
      obtain ⟨htaken, hout⟩ := harea other hother
      have hle := hgrows.next_le
      exact ⟨by omega, fun hin => (hgrows.known other hin).elim hout fun hnew => by omega⟩
    obtain ⟨⟨last, hlast⟩, hall⟩ := ih howns' harea' hrest'
    refine ⟨⟨last, .layer hlays hlast⟩, fun final hfinal => ?_⟩
    cases hfinal with
    | layer head tail =>
      obtain rfl := hlays.unique head
      obtain ⟨after, hafter, howns'', hgrows'⟩ := hall final tail
      exact ⟨after, by rw [hafter, hbetween, List.foldl_cons], howns'', hgrows.trans hgrows'⟩

/-- Merging layers in place gives the merged table at a place of its own and changes no table that
was there before, so the layers are as they were. -/
theorem Store.merges_mergeAll {store : Store} {places : List Nat} {layers : List Entries}
    (hlayers : List.Forall₂ (store.Holds (· < store.next)) places layers) :
    (∃ final, store.Merges places final) ∧ ∀ final, store.Merges places final →
      final.Holds (store.next ≤ ·) store.next (Config.mergeAll layers) ∧
      List.Forall₂ (final.Holds (· < store.next)) places layers ∧
      ∀ place < store.next, final.tables place = store.tables place := by
  have harea (place : Nat) (hplace : place < store.next) :
      place < store.allocate.next ∧ place ∉ store.next :: Pinned.allPlaces [] := by
    refine ⟨Nat.lt_succ_of_lt hplace, fun hin => ?_⟩
    have := List.mem_singleton.1 hin
    omega
  have hlayers' : List.Forall₂ (store.allocate.Holds (· < store.next)) places layers :=
    hlayers.imp fun _ _ hholds => hholds.congr fun place hplace =>
      store.allocate_other (Nat.ne_of_lt hplace)
  -- The layers are in the store from before, so none of them is in a place that is written.
  obtain ⟨hexists, hall⟩ := LaysAll.owns store.owns_allocate harea hlayers'
  refine ⟨hexists, fun final hfinal => ?_⟩
  obtain ⟨after, hafter, howns, hgrows⟩ := hall final hfinal
  have hgrows' := (store.grows_allocate []).trans hgrows
  -- What was there before the merge is not written at all.
  have hsame (place : Nat) (hplace : place < store.next) : final.tables place = store.tables place :=
    hgrows'.kept place hplace List.not_mem_nil
  refine ⟨⟨after, hafter, howns.stored, fun place hplace => ?_⟩,
    hlayers.imp fun _ _ hholds => hholds.congr hsame, hsame⟩
  exact (hgrows'.known place hplace).resolve_left List.not_mem_nil

namespace Config

open Setting (at? DistinctKeys Spares)

/-- Layers merge by priority: a setting comes from a layer behind which all layers spare its path.
Merging them in place gives that table, and the layers stay as they are. -/
theorem mergeAll_by_priority {layers : List Entries}
    (hkeys : ∀ layer ∈ layers, DistinctKeys (.table layer)) :
    (∀ path value, IsPlain value → (at? path (.table (mergeAll layers)) = some value ↔
      ∃ before layer after, layers = before ++ layer :: after ∧
        at? path (.table layer) = some value ∧ ∀ later ∈ after, Spares path later)) ∧
    ∀ (store : Store) (places : List Nat),
      List.Forall₂ (store.Holds (· < store.next)) places layers →
      (∃ final, store.Merges places final) ∧ ∀ final, store.Merges places final →
        final.Holds (store.next ≤ ·) store.next (mergeAll layers) ∧
        List.Forall₂ (final.Holds (· < store.next)) places layers ∧
        ∀ place < store.next, final.tables place = store.tables place :=
  ⟨fun _ _ hvalue => at?_mergeAll hvalue hkeys, fun _ _ hlayers => Store.merges_mergeAll hlayers⟩

/-- Two layers with one nested table each. -/
def twoLayers : List Entries :=
  [[("markup", .table [("threshold", .number 3)])],
   [("markup", .table [("enabled", .switch false)]), ("workers", .number 2)]]

/-- The two layers at the places 0 and 2. -/
def twoLayersStore : Store where
  tables
    | 0 => [("markup", .table 1)]
    | 1 => [("threshold", .plain (.number 3))]
    | 2 => [("markup", .table 3), ("workers", .plain (.number 2))]
    | 3 => [("enabled", .plain (.switch false))]
    | _ => []
  next := 4

/-- Of two layers over the same table, the first one's threshold is found below the second one's
switch, and both layers are as before. -/
theorem mergeAll_by_priority_twoLayers :
    (∀ layer ∈ twoLayers, DistinctKeys (.table layer)) ∧
    (∃ before layer after, twoLayers = before ++ layer :: after ∧
      at? ["markup", "threshold"] (.table layer) = some (.number 3) ∧
      ∀ later ∈ after, Spares ["markup", "threshold"] later) ∧
    ∃ final, twoLayersStore.Merges [0, 2] final ∧ final.Holds (4 ≤ ·) 4 (mergeAll twoLayers) ∧
      ∀ place < 4, final.tables place = twoLayersStore.tables place := by
  have hkeys : ∀ layer ∈ twoLayers, DistinctKeys (.table layer) := by
    simp [twoLayers, DistinctKeys, Setting.AllDistinctKeys]
  have hplain (value : Int) : IsPlain (.number value) := fun _ h => by cases h
  have hswitch : IsPlain (.switch false) := fun _ h => by cases h
  -- Two tables with a nested table each, in the first four places.
  have hlayers : List.Forall₂ (twoLayersStore.Holds (· < 4)) [0, 2] twoLayers := by
    refine .cons ⟨[("markup", .table 1 [("threshold", .plain (.number 3))])], rfl, ?_, ?_⟩
      (.cons ⟨[("markup", .table 3 [("enabled", .plain (.switch false))]),
        ("workers", .plain (.number 2))], rfl, ?_, ?_⟩ .nil)
    · exact ⟨rfl, ⟨rfl, hplain 3, trivial⟩, trivial⟩
    · simp [Pinned.places, Pinned.allPlaces]
    · exact ⟨rfl, ⟨rfl, hswitch, trivial⟩, hplain 2, trivial⟩
    · simp [Pinned.places, Pinned.allPlaces]
  obtain ⟨hpaths, hstores⟩ := mergeAll_by_priority hkeys
  obtain ⟨⟨final, hfinal⟩, hall⟩ := hstores twoLayersStore [0, 2] hlayers
  obtain ⟨hholds, -, hsame⟩ := hall final hfinal
  exact ⟨hkeys, (hpaths _ _ (hplain 3)).1 rfl, final, hfinal, hholds, hsame⟩

end Config

end ChangeLens
