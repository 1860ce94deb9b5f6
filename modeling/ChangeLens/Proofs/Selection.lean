import ChangeLens.Analyzer
import Mathlib.Data.List.Nodup

/-!
# `ChangeLens.Proofs.Selection`: one item for each key

Several analyzers look at one item for each key: `lastOfEach` and `lastWith?` at the last one,
`firstOfEach` at the first one. `mem_lastOfEach` and `mem_firstOfEach` say which items these are:
those that the look-up by their own key answers. So two selected items with equal keys are one item
(`eq_of_mem_lastOfEach`, `eq_of_mem_firstOfEach`), which is what the analyzers rely on when they
look an item of one version up in the other. Items with distinct keys are all selected
(`lastWith?_of_nodup`, `firstOfEach_of_nodup`). A change of the items that keeps their keys may come
before or after the selection (`lastWith?_map`, `lastOfEach_map`, `firstOfEach_map`).
-/

set_option autoImplicit false

namespace ChangeLens

variable {α κ : Type}

/-! ### The last item of a key -/

section Last

variable [BEq κ] [LawfulBEq κ] {key : α → κ} {k : κ} {items : List α} {a b : α}

/-- The last item of a key is an item and has that key. -/
theorem lastWith?_eq_some (h : lastWith? key k items = some a) : a ∈ items ∧ key a = k := by
  have hmem := List.mem_of_getLast? h
  rw [List.mem_filter] at hmem
  exact ⟨hmem.1, eq_of_beq hmem.2⟩

/-- Every item has a last item of its key. -/
theorem exists_lastWith? (key : α → κ) (h : a ∈ items) :
    ∃ b, lastWith? key (key a) items = some b := by
  have hmem : a ∈ items.filter fun item => key item == key a := by simp [h]
  rw [lastWith?]
  cases hlast : (items.filter fun item => key item == key a).getLast? with
  | some b => exact ⟨b, rfl⟩
  | none =>
    rw [List.getLast?_eq_none_iff] at hlast
    rw [hlast] at hmem
    cases hmem

/-- The items that `lastOfEach` selects are the last ones of their own keys. -/
theorem mem_lastOfEach : a ∈ lastOfEach key items ↔ lastWith? key (key a) items = some a := by
  rw [lastOfEach, List.mem_filterMap]
  constructor
  · rintro ⟨k, -, hlast⟩
    rw [(lastWith?_eq_some hlast).2]
    exact hlast
  · intro hlast
    have hkey : key a ∈ items.map key := List.mem_map.2 ⟨a, (lastWith?_eq_some hlast).1, rfl⟩
    exact ⟨key a, List.mem_eraseDups.2 hkey, hlast⟩

/-- Selected items are items. -/
theorem mem_of_mem_lastOfEach (h : a ∈ lastOfEach key items) : a ∈ items :=
  (lastWith?_eq_some (mem_lastOfEach.1 h)).1

/-- `lastOfEach` selects one item for each key. -/
theorem eq_of_mem_lastOfEach (ha : a ∈ lastOfEach key items) (hb : b ∈ lastOfEach key items)
    (hkey : key a = key b) : a = b := by
  rw [mem_lastOfEach] at ha hb
  rw [hkey, hb] at ha
  exact (Option.some.inj ha).symm

/-- A selected item is found again by its key. -/
theorem find?_lastOfEach (h : a ∈ lastOfEach key items) :
    ((lastOfEach key items).find? fun item => key item == key a) = some a := by
  cases hfind : (lastOfEach key items).find? fun item => key item == key a with
  | none => simpa using List.find?_eq_none.1 hfind a h
  | some b =>
    have hkey : key b = key a := by simpa using List.find?_some hfind
    rw [eq_of_mem_lastOfEach (List.mem_of_find?_eq_some hfind) h hkey]

/-- A key is missing among the selected items exactly if no item has it. -/
theorem any_lastOfEach_eq_false :
    ((lastOfEach key items).any fun item => key item == k) = false ↔
      lastWith? key k items = none := by
  rw [List.any_eq_false]
  constructor
  · intro hnone
    -- If the key had an item, its last one would be among the last items of all keys.
    cases hlast : lastWith? key k items with
    | none => rfl
    | some item =>
      obtain ⟨-, rfl⟩ := lastWith?_eq_some hlast
      exact absurd (beq_self_eq_true _) (hnone item (mem_lastOfEach.2 hlast))
  · intro hnone item hitem hkey
    rw [mem_lastOfEach, eq_of_beq hkey, hnone] at hitem
    cases hitem

/-- A look-up among the selected items finds the last item of the key. -/
theorem find?_lastOfEach_eq (key : α → κ) (k : κ) (items : List α) :
    ((lastOfEach key items).find? fun item => key item == k) = lastWith? key k items := by
  cases hlast : lastWith? key k items with
  | none =>
    rw [List.find?_eq_none]
    exact List.any_eq_false.1 (any_lastOfEach_eq_false.2 hlast)
  | some item =>
    obtain ⟨-, rfl⟩ := lastWith?_eq_some hlast
    exact find?_lastOfEach (mem_lastOfEach.2 hlast)

/-- Among items with distinct keys, each is the last one of its key. -/
theorem lastWith?_of_nodup (h : (items.map key).Nodup) (ha : a ∈ items) :
    lastWith? key (key a) items = some a := by
  obtain ⟨b, hb⟩ := exists_lastWith? key ha
  obtain ⟨hmem, hkey⟩ := lastWith?_eq_some hb
  rw [hb, List.inj_on_of_nodup_map h hmem ha hkey]

omit [LawfulBEq κ] in
/-- A map that keeps the keys maps the last item of a key. -/
theorem lastWith?_map {f : α → α} (hf : ∀ a, key (f a) = key a) (k : κ) (items : List α) :
    lastWith? key k (items.map f) = (lastWith? key k items).map f := by
  have hkey : (fun item => key item == k) ∘ f = fun item => key item == k :=
    funext fun item => by rw [Function.comp_apply, hf]
  rw [lastWith?, lastWith?, List.filter_map, List.getLast?_map, hkey]

omit [LawfulBEq κ] in
/-- A map that keeps the keys maps the last items of all keys. -/
theorem lastOfEach_map {f : α → α} (hf : ∀ a, key (f a) = key a) (items : List α) :
    lastOfEach key (items.map f) = (lastOfEach key items).map f := by
  rw [lastOfEach, lastOfEach, List.map_map, show key ∘ f = key from funext hf, List.map_filterMap]
  simp only [lastWith?_map hf]

end Last

/-! ### The first item of a key -/

section First

variable [BEq κ] [LawfulBEq κ] {key : α → κ} {items : List α} {a b : α}

/-- Distinct items have no duplicates to be dropped. -/
theorem eraseDups_of_nodup {keys : List κ} (h : keys.Nodup) : keys.eraseDups = keys := by
  induction keys with
  | nil => rfl
  | cons k rest ih =>
    obtain ⟨hfresh, hrest⟩ := List.nodup_cons.1 h
    have hkept : rest.filter (fun other => !other == k) = rest := by
      rw [List.filter_eq_self]
      intro other hother
      have hne : other ≠ k := fun heq => hfresh (heq ▸ hother)
      simpa using hne
    rw [List.eraseDups_cons, hkept, ih hrest]

/-- The items that `firstOfEach` selects are the first ones of their own keys. -/
theorem mem_firstOfEach :
    a ∈ firstOfEach key items ↔ (items.find? fun item => key item == key a) = some a := by
  rw [firstOfEach, List.mem_filterMap]
  constructor
  · rintro ⟨k, -, hfind⟩
    have hkey : key a = k := by simpa using List.find?_some hfind
    rw [hkey]
    exact hfind
  · intro hfind
    have hkey : key a ∈ items.map key := List.mem_map.2 ⟨a, List.mem_of_find?_eq_some hfind, rfl⟩
    exact ⟨key a, List.mem_eraseDups.2 hkey, hfind⟩

/-- Selected items are items. -/
theorem mem_of_mem_firstOfEach (h : a ∈ firstOfEach key items) : a ∈ items :=
  List.mem_of_find?_eq_some (mem_firstOfEach.1 h)

/-- Every item has a first item of its key. -/
theorem exists_mem_firstOfEach (key : α → κ) (h : a ∈ items) :
    ∃ b ∈ firstOfEach key items, key b = key a := by
  cases hfind : items.find? fun item => key item == key a with
  | none => simpa using List.find?_eq_none.1 hfind a h
  | some b =>
    have hkey : key b = key a := by simpa using List.find?_some hfind
    exact ⟨b, mem_firstOfEach.2 (hkey ▸ hfind), hkey⟩

/-- `firstOfEach` selects one item for each key. -/
theorem eq_of_mem_firstOfEach (ha : a ∈ firstOfEach key items) (hb : b ∈ firstOfEach key items)
    (hkey : key a = key b) : a = b := by
  rw [mem_firstOfEach] at ha hb
  rw [hkey, hb] at ha
  exact (Option.some.inj ha).symm

/-- A selected item is found again by its key. -/
theorem find?_firstOfEach (h : a ∈ firstOfEach key items) :
    ((firstOfEach key items).find? fun item => key item == key a) = some a := by
  cases hfind : (firstOfEach key items).find? fun item => key item == key a with
  | none => simpa using List.find?_eq_none.1 hfind a h
  | some b =>
    have hkey : key b = key a := by simpa using List.find?_some hfind
    rw [eq_of_mem_firstOfEach (List.mem_of_find?_eq_some hfind) h hkey]

/-- Items with distinct keys are all selected. -/
theorem firstOfEach_of_nodup (h : (items.map key).Nodup) : firstOfEach key items = items := by
  have hfind (item : α) (hitem : item ∈ items) :
      (items.find? fun other => key other == key item) = some item := by
    obtain ⟨first, hfirst, hkey⟩ := exists_mem_firstOfEach key hitem
    have hsame := List.inj_on_of_nodup_map h (mem_of_mem_firstOfEach hfirst) hitem hkey
    exact mem_firstOfEach.1 (hsame ▸ hfirst)
  rw [firstOfEach, eraseDups_of_nodup h, List.filterMap_map]
  exact (List.filterMap_congr hfind).trans (List.filterMap_some)

omit [LawfulBEq κ] in
/-- A map that keeps the keys maps the first items of all keys. -/
theorem firstOfEach_map {f : α → α} (hf : ∀ a, key (f a) = key a) (items : List α) :
    firstOfEach key (items.map f) = (firstOfEach key items).map f := by
  have hfind (k : κ) : ((items.map f).find? fun item => key item == k) =
      (items.find? fun item => key item == k).map f := by
    have hkey : (fun item => key item == k) ∘ f = fun item => key item == k :=
      funext fun item => by rw [Function.comp_apply, hf]
    rw [List.find?_map, hkey]
  rw [firstOfEach, firstOfEach, List.map_map, show key ∘ f = key from funext hf,
    List.map_filterMap]
  simp only [hfind]

end First

/-! ### Texts on one side only -/

/-- Sorting loses no text. -/
theorem Text.sorted_eq_nil {texts : List String} : Text.sorted texts = [] ↔ texts = [] := by
  rw [Text.sorted, ← List.length_eq_zero_iff, List.length_mergeSort, List.length_eq_zero_iff]

/-- No text is on one side only exactly if the other side has all of them. -/
theorem sortedWithout_eq_nil {texts others : List String} :
    sortedWithout texts others = [] ↔ ∀ text ∈ texts, text ∈ others := by
  rw [sortedWithout, Text.sorted_eq_nil, List.eq_nil_iff_forall_not_mem]
  simp [List.mem_eraseDups]

/-- Nothing of a list is missing in itself. -/
theorem sortedWithout_self (texts : List String) : sortedWithout texts texts = [] :=
  sortedWithout_eq_nil.2 fun _ h => h

end ChangeLens
