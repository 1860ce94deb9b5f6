import ChangeLens.Proofs.FirstFit

/-!
# `ChangeLens.Proofs.Mirroring`: pairing the other way round

Pairing treats its two lists differently: the items of one make claims in turn, the other one is the
pool they take from. `Pairing.Mirrors` says that this makes no difference: with the lists exchanged,
the same items are paired, and the leftovers, in their order, are exchanged.

`pairFirst_mirrors` proves it for first come, first served under any relation. The reason is what
the first item `x` does. If it takes `y`, nothing before `y` fits `x`; so when the items of the other
list make the claims, those before `y` pass `x` by, and `y` finds `x` at the very front of its pool
(`claims_front_met`). If nothing fits `x`, everybody passes it by (`claims_front_idle`). Every other
way of pairing follows, since each is a pass or a cascade of passes by a relation that reads the same
in both directions.
-/

set_option autoImplicit false

namespace ChangeLens.Pairing

universe u v w

variable {α : Type u} {β : Type v}

/-! ### The item in front of the pool -/

section Front

variable (fits : α → β → Bool) {a : α} {b : β} {xs before : List α}

/-- An item that does not fit is passed and stays in front. -/
theorem takeFirst?_cons_of_not {p : β → Bool} (h : p b = false) (pool : List β) :
    takeFirst? p (b :: pool) =
      (takeFirst? p pool).map fun (found, left) => (found, b :: left) := by
  rw [takeFirst?, if_neg (by simp [h])]

/-- From an empty pool nobody takes anything. -/
theorem claims_nil_pool (xs : List α) :
    claims fits xs [] = (xs.map fun x => (x, none), []) := by
  induction xs with
  | nil => rfl
  | cons x xs ih => rw [claims_cons_of_none rfl, ih, List.map_cons]

/-- An item that fits nobody stays in front of the pool, and nobody notices it. -/
theorem claims_front_idle (hidle : ∀ x ∈ xs, fits x b = false) (pool : List β) :
    claims fits xs (b :: pool) = ((claims fits xs pool).1, b :: (claims fits xs pool).2) := by
  induction xs generalizing pool with
  | nil => rfl
  | cons x xs ih =>
    have hrest := ih fun y hy => hidle y (List.mem_cons_of_mem x hy)
    have hskip := takeFirst?_cons_of_not (hidle x List.mem_cons_self) pool
    cases htake : takeFirst? (fits x) pool with
    | none =>
      rw [htake] at hskip
      rw [claims_cons_of_none htake, claims_cons_of_none hskip, hrest pool]
    | some found =>
      rw [htake] at hskip
      rw [claims_cons_of_some htake, claims_cons_of_some hskip, hrest found.2]

/-- The first item that fits the front of the pool takes it. The others do what they would do without
these two. -/
theorem claims_front_met (hfits : fits a b = true) (hbefore : ∀ x ∈ before, fits x b = false)
    (after : List α) (pool : List β) :
    (claimed (claims fits (before ++ a :: after) (b :: pool)).1).Perm
        ((a, b) :: claimed (claims fits (before ++ after) pool).1) ∧
      unclaimed (claims fits (before ++ a :: after) (b :: pool)).1 =
        unclaimed (claims fits (before ++ after) pool).1 ∧
      (claims fits (before ++ a :: after) (b :: pool)).2 =
        (claims fits (before ++ after) pool).2 := by
  induction before generalizing pool with
  | nil =>
    have htake : takeFirst? (fits a) (b :: pool) = some (b, pool) := by
      rw [takeFirst?, if_pos hfits]
    rw [List.nil_append, List.nil_append, claims_cons_of_some htake]
    exact ⟨List.Perm.refl _, rfl, rfl⟩
  | cons x before ih =>
    have hrest := ih fun y hy => hbefore y (List.mem_cons_of_mem x hy)
    have hskip := takeFirst?_cons_of_not (hbefore x List.mem_cons_self) pool
    rw [List.cons_append, List.cons_append]
    cases htake : takeFirst? (fits x) pool with
    | none =>
      rw [htake] at hskip
      rw [claims_cons_of_none htake, claims_cons_of_none hskip]
      obtain ⟨hclaimed, hunclaimed, hleft⟩ := hrest pool
      exact ⟨hclaimed, congrArg (x :: ·) hunclaimed, hleft⟩
    | some found =>
      rw [htake] at hskip
      rw [claims_cons_of_some htake, claims_cons_of_some hskip]
      obtain ⟨hclaimed, hunclaimed, hleft⟩ := hrest found.2
      -- The pair of `x` stands before the pair of `a` on the left, and behind it on the right.
      exact ⟨(hclaimed.cons (x, found.1)).trans (List.Perm.swap _ _ _), hunclaimed, hleft⟩

end Front

/-! ### Claims the other way round -/

/-- When the items of the pool make the claims instead, the same items meet, what was left in the
pool takes nothing, and what took nothing is left. -/
theorem claims_mirror (fits : α → β → Bool) (xs : List α) (pool : List β) :
    (claimed (claims (fun y x => fits x y) pool xs).1).Perm
        ((claimed (claims fits xs pool).1).map Prod.swap) ∧
      unclaimed (claims (fun y x => fits x y) pool xs).1 = (claims fits xs pool).2 ∧
      (claims (fun y x => fits x y) pool xs).2 = unclaimed (claims fits xs pool).1 := by
  induction xs generalizing pool with
  | nil =>
    rw [claims_nil_pool]
    refine ⟨?_, ?_, rfl⟩
    · simp [claimed, claims]
    · rw [unclaimed, List.filterMap_map]
      exact List.filterMap_some
  | cons x xs ih =>
    cases htake : takeFirst? (fits x) pool with
    | none =>
      -- `x` fits nothing, so it stands in the turned pool without being claimed.
      have hidle : ∀ y ∈ pool, fits x y = false := by
        simpa using List.filter_eq_nil_iff.1 (filter_of_takeFirst?_none htake)
      rw [claims_cons_of_none htake, claims_front_idle (fun y x => fits x y) hidle xs]
      obtain ⟨hclaimed, hunclaimed, hleft⟩ := ih pool
      exact ⟨hclaimed, hunclaimed, congrArg (x :: ·) hleft⟩
    | some found =>
      obtain ⟨hfits, before, after, rfl, hleft, hbefore⟩ := takeFirst?_eq_first htake
      rw [claims_cons_of_some htake, hleft]
      obtain ⟨hclaimed, hunclaimed, hrest⟩ := ih (before ++ after)
      -- `x` claims `b`; turned round, `b` finds `x` in front of the pool and claims it.
      obtain ⟨hmet, hstay, hpool⟩ :=
        claims_front_met (fun y x => fits x y) hfits hbefore after xs
      exact ⟨hmet.trans (hclaimed.cons _), hstay.trans hunclaimed, hpool.trans hrest⟩

/-- What a pairing becomes when the two lists are exchanged: the pairs are turned, and the leftovers
change sides. -/
structure Mirrors (paired turned : Pairing α) : Prop where
  /-- The same items are paired. -/
  pairs : turned.pairs.Perm (paired.pairs.map Prod.swap)
  /-- What was left of the head items is left of the base items, in the same order. -/
  base : turned.base = paired.head
  /-- What was left of the base items is left of the head items, in the same order. -/
  head : turned.head = paired.base

/-- Pairing the other way round gives the same pairs, turned, and the same leftovers. -/
theorem pairFirst_mirrors (fits : α → α → Bool) (base head : List α) :
    (pairFirst fits base head).Mirrors (pairFirst (fun h b => fits b h) head base) :=
  have hmirror := claims_mirror fits base head
  ⟨hmirror.1, hmirror.2.1, hmirror.2.2⟩

/-! ### The other ways of pairing -/

section Keys

variable {κ : Type w} [DecidableEq κ]

/-- Pairing by a key can be turned round. -/
theorem pairBy_mirrors (key : α → κ) (base head : List α) :
    (pairBy key base head).Mirrors (pairBy key head base) := by
  have hturned : (fun h b : α => decide (key h = key b)) = fun h b => decide (key b = key h) := by
    funext h b
    rw [decide_eq_decide, eq_comm]
  have hmirror := pairFirst_mirrors (fun b h => decide (key h = key b)) base head
  rw [hturned] at hmirror
  exact hmirror

/-- A key that is unique in both lists is unique in them in either order. -/
theorem isUnique_comm (key : α → κ) (xs ys : List α) (item : α) :
    isUnique key xs ys item = isUnique key ys xs item :=
  Bool.and_comm _ _

/-- Pairing by a unique key can be turned round. -/
theorem pairUnique_mirrors (key : α → κ) (base head : List α) :
    (pairUnique key base head).Mirrors (pairUnique key head base) := by
  -- Items of one key are unique together, so it does not matter which of the two is asked.
  have hturned : (fun h b : α => isUnique key base head b && decide (key h = key b)) =
      fun h b => isUnique key head base h && decide (key b = key h) := by
    funext h b
    by_cases hkey : key h = key b
    · rw [isUnique_comm, isUnique_congr hkey, decide_eq_true hkey, decide_eq_true hkey.symm]
    · rw [decide_eq_false hkey, decide_eq_false (Ne.symm hkey), Bool.and_false, Bool.and_false]
  have hmirror := pairFirst_mirrors
    (fun b h => isUnique key base head b && decide (key h = key b)) base head
  rw [hturned] at hmirror
  exact hmirror

/-- A pass over exchanged leftovers. -/
theorem Mirrors.pairBy {first turned : Pairing α} (h : first.Mirrors turned) (key : α → κ) :
    (Pairing.pairBy key first.base first.head).Mirrors
      (Pairing.pairBy key turned.base turned.head) := by
  rw [h.base, h.head]
  exact pairBy_mirrors key first.base first.head

/-- Pairing by position what is left by content can be turned round, because both passes can. -/
theorem pairLocated_mirrors {π : Type v} [DecidableEq π] (content : α → κ) (position : α → π)
    (base head : List α) :
    (pairLocated content position base head).Mirrors (pairLocated content position head base) :=
  (pairBy_mirrors content base head).pairBy position

end Keys

end ChangeLens.Pairing

namespace ChangeLens.Analyzer

open ChangeLens.Pairing

/-- One more pass by a key keeps the mirror image. -/
theorem andThen_pairBy_mirrors {α κ : Type} [DecidableEq κ] {first turned : Pairing α}
    (h : first.Mirrors turned) (key : α → κ) :
    (andThen first (pairBy key)).Mirrors (andThen turned (pairBy key)) where
  pairs := by
    show (turned.pairs ++ (pairBy key turned.base turned.head).pairs).Perm
      ((first.pairs ++ (pairBy key first.base first.head).pairs).map Prod.swap)
    rw [List.map_append]
    exact h.pairs.append (h.pairBy key).pairs
  base := (h.pairBy key).base
  head := (h.pairBy key).head

/-- The three passes over calls can be turned round one by one. -/
theorem pairCalls_mirrors (base head : List CallSite) :
    (pairCalls base head).Mirrors (pairCalls head base) :=
  andThen_pairBy_mirrors (andThen_pairBy_mirrors
    (andThen_pairBy_mirrors (pairUnique_mirrors CallSite.callee base head) _) _) _

end ChangeLens.Analyzer
