import ChangeLens.Proofs.Pairing

/-!
# `ChangeLens.Proofs.FirstFit`: pairing by key loses nothing and pairs by rank

`Partitions` says that a pairing uses up both lists: every item is in one pair or left over, as often
as it was given, and what is left keeps its order. All pairings are claims of the items of one list
on a pool, so `pairFirst_partitions` proves it for all of them from what claims take and leave.
`Partitions.trans` carries it through one more pass over the leftovers, and `Partitions.eq_nil` says
when nothing is left at all.

`pairBy` pairs within each key on its own. `pairBy_cons` says what the first base item does: it takes
the first head item of its key, which no other key notices, or it stays because that key is used up.
So the items of one key are paired by rank, the first with the first and so on, and only one side
has any left (`pairBy_ofKey`, `pairBy_apart`). `pairBy_firstFit` puts these facts together.
-/

set_option autoImplicit false

namespace ChangeLens.Pairing

universe u v w

variable {α : Type u} {β : Type v}

/-! ### Claims -/

section Claims

variable {fits : α → β → Bool} {a : α} {b : β} {xs : List α} {pool left : List β}

/-- An item that fits something claims the first such item, and the others go on with what is left.
-/
theorem claims_cons_of_some (h : takeFirst? (fits a) pool = some (b, left)) :
    claims fits (a :: xs) pool =
      ((a, some b) :: (claims fits xs left).1, (claims fits xs left).2) := by
  rw [claims, h]

/-- An item that fits nothing claims nothing and leaves the pool as it is. -/
theorem claims_cons_of_none (h : takeFirst? (fits a) pool = none) :
    claims fits (a :: xs) pool = ((a, none) :: (claims fits xs pool).1, (claims fits xs pool).2) := by
  rw [claims, h]

/-- Every item answers once, in its place. -/
theorem map_fst_claims (fits : α → β → Bool) (xs : List α) (pool : List β) :
    (claims fits xs pool).1.map Prod.fst = xs := by
  induction xs generalizing pool with
  | nil => rfl
  | cons a xs ih =>
    cases htake : takeFirst? (fits a) pool with
    | some found =>
      rw [claims_cons_of_some htake, List.map_cons, ih]
    | none => rw [claims_cons_of_none htake, List.map_cons, ih]

/-- What claims take and what they leave is the pool. -/
theorem claims_pool_perm (fits : α → β → Bool) (xs : List α) (pool : List β) :
    ((claimed (claims fits xs pool).1).map Prod.snd ++ (claims fits xs pool).2).Perm pool := by
  induction xs generalizing pool with
  | nil => exact List.Perm.refl pool
  | cons a xs ih =>
    cases htake : takeFirst? (fits a) pool with
    | some found =>
      -- What `a` takes stands in the middle of the pool; the rest of `xs` works on what is around it.
      obtain ⟨-, before, after, rfl, hleft⟩ := takeFirst?_eq_some htake
      rw [claims_cons_of_some htake]
      refine List.Perm.trans ?_ List.perm_middle.symm
      rw [← hleft]
      exact (ih found.2).cons found.1
    | none =>
      rw [claims_cons_of_none htake]
      exact ih pool

/-- What is left of the pool keeps its order. -/
theorem claims_left_sublist (fits : α → β → Bool) (xs : List α) (pool : List β) :
    (claims fits xs pool).2.Sublist pool := by
  induction xs generalizing pool with
  | nil => exact List.Sublist.refl pool
  | cons a xs ih =>
    cases htake : takeFirst? (fits a) pool with
    | some found =>
      -- One item is taken out of the middle, which leaves the order of the others.
      obtain ⟨-, before, after, rfl, hleft⟩ := takeFirst?_eq_some htake
      rw [claims_cons_of_some htake]
      refine (ih found.2).trans ?_
      rw [hleft]
      exact (List.Sublist.refl before).append (List.sublist_cons_self _ after)
    | none =>
      rw [claims_cons_of_none htake]
      exact ih pool

/-- An item either took something or did not. -/
theorem claimed_unclaimed_perm (taken : List (α × Option β)) :
    ((claimed taken).map Prod.fst ++ unclaimed taken).Perm (taken.map Prod.fst) := by
  induction taken with
  | nil => exact List.Perm.refl []
  | cons answer taken ih =>
    obtain ⟨a, b?⟩ := answer
    cases b? with
    | some b => exact ih.cons a
    | none => exact List.perm_middle.trans (ih.cons a)

/-- The items that claimed nothing keep their order. -/
theorem unclaimed_sublist (taken : List (α × Option β)) :
    (unclaimed taken).Sublist (taken.map Prod.fst) := by
  induction taken with
  | nil => exact List.Sublist.refl []
  | cons answer taken ih =>
    obtain ⟨a, b?⟩ := answer
    cases b? with
    | some b => exact ih.cons a
    | none => exact ih.cons_cons a

end Claims

/-! ### Nothing is lost -/

/-- A pairing uses up two lists: each item is in a pair or left over, as often as it was given, and
what is left keeps its order. -/
structure Partitions (paired : Pairing α) (base head : List α) : Prop where
  /-- A base item is the first half of a pair or left. -/
  basePerm : (paired.pairs.map Prod.fst ++ paired.base).Perm base
  /-- A head item is the second half of a pair or left. -/
  headPerm : (paired.pairs.map Prod.snd ++ paired.head).Perm head
  /-- The base items that are left keep their order. -/
  baseOrder : paired.base.Sublist base
  /-- The head items that are left keep their order. -/
  headOrder : paired.head.Sublist head

/-- Pairing with the first fitting item loses nothing and keeps the order of what is left. -/
theorem pairFirst_partitions (fits : α → α → Bool) (base head : List α) :
    (pairFirst fits base head).Partitions base head := by
  have hitems := map_fst_claims fits base head
  refine ⟨?_, claims_pool_perm fits base head, ?_, claims_left_sublist fits base head⟩
  · have hperm := claimed_unclaimed_perm (claims fits base head).1
    rw [hitems] at hperm
    exact hperm
  · have hsublist := unclaimed_sublist (claims fits base head).1
    rw [hitems] at hsublist
    exact hsublist

/-- One more pass over the leftovers uses up the same lists. -/
theorem Partitions.trans {first second : Pairing α} {base head : List α}
    (hfirst : first.Partitions base head) (hsecond : second.Partitions first.base first.head) :
    (⟨first.pairs ++ second.pairs, second.base, second.head⟩ : Pairing α).Partitions base head where
  basePerm := by
    rw [List.map_append, List.append_assoc]
    exact (hsecond.basePerm.append_left _).trans hfirst.basePerm
  headPerm := by
    rw [List.map_append, List.append_assoc]
    exact (hsecond.headPerm.append_left _).trans hfirst.headPerm
  baseOrder := hsecond.baseOrder.trans hfirst.baseOrder
  headOrder := hsecond.headOrder.trans hfirst.headOrder

/-- Pairs that agree on `f` take the same values of `f` from both sides. -/
theorem Partitions.map_rest_perm {γ : Type v} {f : α → γ} {paired : Pairing α} {base head : List α}
    (hparts : paired.Partitions base head) (hpairs : ∀ pair ∈ paired.pairs, f pair.1 = f pair.2)
    (hperm : (base.map f).Perm (head.map f)) : (paired.base.map f).Perm (paired.head.map f) := by
  have htaken : (paired.pairs.map Prod.fst).map f = (paired.pairs.map Prod.snd).map f := by
    rw [List.map_map, List.map_map]
    exact List.map_congr_left hpairs
  have hboth := ((hparts.basePerm.map f).trans hperm).trans (hparts.headPerm.map f).symm
  rw [List.map_append, List.map_append, htaken] at hboth
  exact (List.perm_append_left_iff _).1 hboth

/-- Where both sides have the same values of `f`, pairs agree on it and no value is left on both
sides, nothing is left at all. -/
theorem Partitions.eq_nil {γ : Type v} {f : α → γ} {paired : Pairing α} {base head : List α}
    (hparts : paired.Partitions base head) (hpairs : ∀ pair ∈ paired.pairs, f pair.1 = f pair.2)
    (hapart : ∀ b ∈ paired.base, ∀ h ∈ paired.head, f b ≠ f h)
    (hperm : (base.map f).Perm (head.map f)) : paired.base = [] ∧ paired.head = [] := by
  have hrest := hparts.map_rest_perm hpairs hperm
  have hbase : paired.base = [] := by
    rw [List.eq_nil_iff_forall_not_mem]
    intro b hb
    -- The value of `b` would be left among the head items, too.
    obtain ⟨h, hh, heq⟩ := List.mem_map.1 (hrest.mem_iff.1 (List.mem_map_of_mem hb))
    exact hapart b hb h hh heq.symm
  rw [hbase] at hrest
  exact ⟨hbase, List.map_eq_nil_iff.1 hrest.nil_eq.symm⟩

/-! ### Each key on its own -/

section ByKey

variable {κ : Type w} [DecidableEq κ]

/-- The items with a key, in their order. -/
def ofKey (key : α → κ) (k : κ) (items : List α) : List α :=
  items.filter fun item => decide (key item = k)

/-- The items of a key are the items that have it. -/
theorem mem_ofKey {key : α → κ} {k : κ} {items : List α} {a : α} :
    a ∈ ofKey key k items ↔ a ∈ items ∧ key a = k := by
  rw [ofKey, List.mem_filter, decide_eq_true_iff]

/-- An item of the key stands first among the items of the key. -/
theorem ofKey_cons_self {key : α → κ} {k : κ} {a : α} (h : key a = k) (items : List α) :
    ofKey key k (a :: items) = a :: ofKey key k items :=
  List.filter_cons_of_pos (decide_eq_true h)

/-- An item of another key does not count. -/
theorem ofKey_cons_of_ne {key : α → κ} {k : κ} {a : α} (h : key a ≠ k) (items : List α) :
    ofKey key k (a :: items) = ofKey key k items :=
  List.filter_cons_of_neg (by simp [h])

/-- The first item that fits is taken out of those that fit. -/
theorem filter_of_takeFirst? {p : α → Bool} {xs left : List α} {a : α}
    (h : takeFirst? p xs = some (a, left)) : xs.filter p = a :: left.filter p := by
  induction xs generalizing left with
  | nil => cases h
  | cons x xs ih =>
    rw [takeFirst?] at h
    split at h
    · -- The first item is the one that is taken, or it is passed and does not satisfy `p`.
      rename_i hx
      cases h
      exact List.filter_cons_of_pos hx
    · rename_i hx
      obtain ⟨⟨b, more⟩, hmore, heq⟩ := Option.map_eq_some_iff.1 h
      cases heq
      rw [List.filter_cons_of_neg hx, List.filter_cons_of_neg hx, ih hmore]

/-- Where nothing is taken, nothing fits. -/
theorem filter_of_takeFirst?_none {p : α → Bool} {xs : List α} (h : takeFirst? p xs = none) :
    xs.filter p = [] := by
  induction xs with
  | nil => rfl
  | cons x xs ih =>
    rw [takeFirst?] at h
    split at h
    · cases h
    · rename_i hx
      rw [List.filter_cons_of_neg hx, ih (Option.map_eq_none_iff.1 h)]

/-- What the first base item does: its key is used up and it stays, or it takes the first head item
of its key and leaves all other keys alone. -/
theorem pairBy_cons (key : α → κ) (b : α) (base head : List α) :
    (ofKey key (key b) head = [] ∧
      pairBy key (b :: base) head =
        ⟨(pairBy key base head).pairs, b :: (pairBy key base head).base,
          (pairBy key base head).head⟩) ∨
    ∃ h left, ofKey key (key b) head = h :: ofKey key (key b) left ∧
      (∀ k, key b ≠ k → ofKey key k head = ofKey key k left) ∧
      pairBy key (b :: base) head =
        ⟨(b, h) :: (pairBy key base left).pairs, (pairBy key base left).base,
          (pairBy key base left).head⟩ := by
  let fits (b h : α) : Bool := decide (key h = key b)
  have hpair (xs ys : List α) : pairBy key xs ys =
      ⟨claimed (claims fits xs ys).1, unclaimed (claims fits xs ys).1, (claims fits xs ys).2⟩ := rfl
  cases htake : takeFirst? (fits b) head with
  | none =>
    -- No item of the pool has the key of `b`.
    refine Or.inl ⟨filter_of_takeFirst?_none htake, ?_⟩
    rw [hpair, claims_cons_of_none htake]
    rfl
  | some found =>
    obtain ⟨h, left⟩ := found
    obtain ⟨hfits, before, after, hhead, hleft⟩ := takeFirst?_eq_some htake
    refine Or.inr ⟨h, left, filter_of_takeFirst? htake, fun k hk => ?_, ?_⟩
    · -- What was taken has the key of `b`, so the items of any other key are all still there.
      have hne : key h ≠ k := by
        rw [of_decide_eq_true hfits]
        exact hk
      rw [hhead, hleft, ofKey, ofKey, List.filter_append, List.filter_append,
        List.filter_cons_of_neg (by simp [hne])]
    · rw [hpair, claims_cons_of_some htake]
      rfl

/-- Within one key items are paired by rank, and the longer side keeps the rest. -/
theorem pairBy_ofKey (key : α → κ) (k : κ) (base head : List α) :
    ((pairBy key base head).pairs.filter fun pair => decide (key pair.1 = k)) =
        (ofKey key k base).zip (ofKey key k head) ∧
      ofKey key k (pairBy key base head).base =
        (ofKey key k base).drop (ofKey key k head).length ∧
      ofKey key k (pairBy key base head).head =
        (ofKey key k head).drop (ofKey key k base).length := by
  -- Each base item changes the pool of its own key only, so the pool has to be general.
  induction base generalizing head with
  | nil => exact ⟨rfl, List.drop_nil.symm, rfl⟩
  | cons b base ih =>
    rcases pairBy_cons key b base head with ⟨hempty, hpair⟩ | ⟨h, left, hself, hother, hpair⟩
    · obtain ⟨hpairs, hbase, hhead⟩ := ih head
      rw [hpair]
      by_cases hk : key b = k
      · subst hk
        rw [hempty] at hpairs hbase hhead ⊢
        rw [ofKey_cons_self rfl, ofKey_cons_self rfl, hpairs, hbase, hhead]
        simp
      · rw [ofKey_cons_of_ne hk, ofKey_cons_of_ne hk]
        exact ⟨hpairs, hbase, hhead⟩
    · obtain ⟨hpairs, hbase, hhead⟩ := ih left
      rw [hpair]
      by_cases hk : key b = k
      · subst hk
        rw [ofKey_cons_self rfl, hself, List.filter_cons_of_pos (by simp), hpairs, hbase, hhead]
        exact ⟨rfl, rfl, rfl⟩
      · rw [ofKey_cons_of_ne hk, hother k hk, List.filter_cons_of_neg (by simp [hk])]
        exact ⟨hpairs, hbase, hhead⟩

/-- Items are paired exactly if they have the same rank among those of one key. -/
theorem mem_pairs_pairBy {key : α → κ} {base head : List α} {pair : α × α} :
    pair ∈ (pairBy key base head).pairs ↔
      ∃ k, pair ∈ (ofKey key k base).zip (ofKey key k head) := by
  constructor
  · intro hpair
    refine ⟨key pair.1, ?_⟩
    rw [← (pairBy_ofKey key (key pair.1) base head).1, List.mem_filter]
    exact ⟨hpair, decide_eq_true rfl⟩
  · rintro ⟨k, hpair⟩
    rw [← (pairBy_ofKey key k base head).1] at hpair
    exact (List.mem_filter.1 hpair).1

/-- Pairing by a key loses nothing and keeps the order of what is left. -/
theorem pairBy_partitions (key : α → κ) (base head : List α) :
    (pairBy key base head).Partitions base head :=
  pairFirst_partitions _ base head

/-- Items that are paired by a key have the same key. -/
theorem pairBy_key_eq {key : α → κ} {base head : List α} {pair : α × α}
    (h : pair ∈ (pairBy key base head).pairs) : key pair.1 = key pair.2 := by
  have hfits := ((mem_claims (mem_claimed.1 h)).2 pair.2 rfl).2
  exact (of_decide_eq_true hfits).symm

/-- A key that is left on one side is used up on the other one. -/
theorem pairBy_apart {key : α → κ} {base head : List α} {b h : α}
    (hb : b ∈ (pairBy key base head).base) (hh : h ∈ (pairBy key base head).head) :
    key b ≠ key h := by
  intro hkey
  obtain ⟨-, hbase, hhead⟩ := pairBy_ofKey key (key h) base head
  have hbmem : b ∈ ofKey key (key h) (pairBy key base head).base := mem_ofKey.2 ⟨hb, hkey⟩
  have hhmem : h ∈ ofKey key (key h) (pairBy key base head).head := mem_ofKey.2 ⟨hh, rfl⟩
  rw [hbase] at hbmem
  rw [hhead] at hhmem
  -- Both sides would have more items of this key than the other one.
  have hmore := List.length_pos_of_mem hbmem
  have hfewer := List.length_pos_of_mem hhmem
  rw [List.length_drop] at hmore hfewer
  omega

/-- Nothing is left on either side exactly if both have the same keys, equally often. -/
theorem pairBy_eq_nil_iff (key : α → κ) (base head : List α) :
    (pairBy key base head).base = [] ∧ (pairBy key base head).head = [] ↔
      (base.map key).Perm (head.map key) := by
  have hparts := pairBy_partitions key base head
  have hpairs : ∀ pair ∈ (pairBy key base head).pairs, key pair.1 = key pair.2 :=
    fun _ => pairBy_key_eq
  constructor
  · rintro ⟨hbase, hhead⟩
    -- Both lists are then the two halves of the pairs, which have equal keys.
    have hfst := hparts.basePerm.map key
    have hsnd := hparts.headPerm.map key
    rw [hbase, List.append_nil, List.map_map] at hfst
    rw [hhead, List.append_nil, List.map_map] at hsnd
    have hkeys : (pairBy key base head).pairs.map (key ∘ Prod.fst) =
        (pairBy key base head).pairs.map (key ∘ Prod.snd) := List.map_congr_left hpairs
    rw [hkeys] at hfst
    exact hfst.symm.trans hsnd
  · intro hperm
    exact hparts.eq_nil hpairs (fun b hb h hh => pairBy_apart hb hh) hperm

/-- Pairing by key is a matching by rank that loses nothing: each item is in one pair or left over,
in its order; pairs have equal keys; of each key, the first base item is paired with the first head
item, the second with the second and so on, and the rest of the longer side is left; so no key is
left on both sides. -/
theorem pairBy_firstFit (key : α → κ) (base head : List α) :
    (pairBy key base head).Partitions base head ∧
      (∀ pair ∈ (pairBy key base head).pairs, key pair.1 = key pair.2) ∧
      (∀ k,
        ((pairBy key base head).pairs.filter fun pair => decide (key pair.1 = k)) =
            (ofKey key k base).zip (ofKey key k head) ∧
          ofKey key k (pairBy key base head).base =
            (ofKey key k base).drop (ofKey key k head).length ∧
          ofKey key k (pairBy key base head).head =
            (ofKey key k head).drop (ofKey key k base).length) ∧
      ∀ b ∈ (pairBy key base head).base, ∀ h ∈ (pairBy key base head).head, key b ≠ key h :=
  ⟨pairBy_partitions key base head, fun _ => pairBy_key_eq, fun k => pairBy_ofKey key k base head,
    fun _ hb _ hh => pairBy_apart hb hh⟩

end ByKey

end ChangeLens.Pairing
