import ChangeLens.Analyzer.Calls
import ChangeLens.Pairing

/-!
# `ChangeLens.Proofs.Pairing`: what pairing takes, leaves and does to lists that agree

`claims` hands every item the first fitting item of a pool. Two groups of facts about it serve all
analyzers.

* `Pairing.Within`: pairs and leftovers hold only items of the lists that were paired, each on its
  own side. `pairFirst_within` proves it from `claims`, and every other way of pairing inherits it.
* Pairing lists that agree item by item: `claims_of_map_eq` says that an item that fits its
  counterpart takes it, however many other items would fit it too. So `pairBy_eq_zip` pairs
  everything. `pairUnique_of_map_eq` pairs only what is unique, and leaves the same places on both
  sides; that is enough for `pairCalls_of_map_eq`.
-/

set_option autoImplicit false

namespace ChangeLens.Pairing

universe u v w

variable {α : Type u} {β : Type v}

/-! ### Taking the first fitting item -/

/-- `takeFirst?` takes the first item that fits out of its place. -/
theorem takeFirst?_eq_first {p : α → Bool} {xs left : List α} {a : α}
    (h : takeFirst? p xs = some (a, left)) :
    p a = true ∧ ∃ before after, xs = before ++ a :: after ∧ left = before ++ after ∧
      ∀ x ∈ before, p x = false := by
  induction xs generalizing left with
  | nil => cases h
  | cons x xs ih =>
    rw [takeFirst?] at h
    split at h
    · rename_i hx
      cases h
      exact ⟨hx, [], xs, rfl, rfl, by simp⟩
    · rename_i hx
      obtain ⟨⟨b, more⟩, hmore, heq⟩ := Option.map_eq_some_iff.1 h
      cases heq
      obtain ⟨hp, before, after, rfl, rfl, hbefore⟩ := ih hmore
      refine ⟨hp, x :: before, after, rfl, rfl, fun y hy => ?_⟩
      rcases List.mem_cons.1 hy with rfl | hy
      · -- What was passed on the way did not satisfy `p`.
        exact Bool.eq_false_iff.2 hx
      · exact hbefore y hy

/-- What `takeFirst?` takes fits, and taking it out of its place gives what is left. -/
theorem takeFirst?_eq_some {p : α → Bool} {xs left : List α} {a : α}
    (h : takeFirst? p xs = some (a, left)) :
    p a = true ∧ ∃ before after, xs = before ++ a :: after ∧ left = before ++ after := by
  obtain ⟨hp, before, after, hxs, hleft, -⟩ := takeFirst?_eq_first h
  exact ⟨hp, before, after, hxs, hleft⟩

/-- `takeFirst?` passes over what does not fit. -/
theorem takeFirst?_append {p : α → Bool} (front rest : List α) (h : ∀ x ∈ front, p x = false) :
    takeFirst? p (front ++ rest) =
      (takeFirst? p rest).map fun (found, left) => (found, front ++ left) := by
  induction front with
  | nil =>
    rw [List.nil_append]
    cases takeFirst? p rest <;> rfl
  | cons x front ih =>
    rw [List.cons_append, takeFirst?, if_neg (by simp [h x]), ih fun y hy => h y (by simp [hy])]
    cases takeFirst? p rest <;> rfl

/-- `takeFirst?` finds nothing where nothing fits. -/
theorem takeFirst?_eq_none {p : α → Bool} {xs : List α} (h : ∀ x ∈ xs, p x = false) :
    takeFirst? p xs = none := by
  have happ := takeFirst?_append xs [] h
  rw [List.append_nil] at happ
  exact happ

/-! ### Claims stay within their lists -/

/-- What is left when an item is taken out was there before. -/
theorem mem_of_mem_rest {before after : List α} {a b : α} (h : b ∈ before ++ after) :
    b ∈ before ++ a :: after := by
  rw [List.mem_append, List.mem_cons]
  exact (List.mem_append.1 h).imp_right Or.inr

/-- Claims are made by the items that were given, for fitting items of the pool. -/
theorem mem_claims {fits : α → β → Bool} {xs : List α} {pool : List β} {a : α} {b? : Option β}
    (h : (a, b?) ∈ (claims fits xs pool).1) :
    a ∈ xs ∧ ∀ b, b? = some b → b ∈ pool ∧ fits a b = true := by
  induction xs generalizing pool with
  | nil => cases h
  | cons x xs ih =>
    rw [claims] at h
    split at h
    · rename_i b left htake
      obtain ⟨hfits, before, after, rfl, rfl⟩ := takeFirst?_eq_some htake
      rcases List.mem_cons.1 h with heq | hmem
      · cases heq
        refine ⟨by simp, fun c hc => ?_⟩
        cases hc
        exact ⟨by simp, hfits⟩
      · -- What a later item claims was left by this one, so it was in the pool.
        obtain ⟨hx, hb⟩ := ih hmem
        refine ⟨by simp [hx], fun c hc => ⟨?_, (hb c hc).2⟩⟩
        exact mem_of_mem_rest (hb c hc).1
    · rcases List.mem_cons.1 h with heq | hmem
      · cases heq
        exact ⟨by simp, nofun⟩
      · obtain ⟨hx, hb⟩ := ih hmem
        exact ⟨by simp [hx], hb⟩

/-- What claims leave was in the pool. -/
theorem mem_claims_left {fits : α → β → Bool} {xs : List α} {pool : List β} {b : β}
    (h : b ∈ (claims fits xs pool).2) : b ∈ pool := by
  induction xs generalizing pool with
  | nil => exact h
  | cons x xs ih =>
    rw [claims] at h
    split at h
    · rename_i c left htake
      obtain ⟨-, before, after, rfl, rfl⟩ := takeFirst?_eq_some htake
      exact mem_of_mem_rest (ih h)
    · exact ih h

/-- An item without a claim is one of those that made claims. -/
theorem mem_unclaimed {taken : List (α × Option β)} {a : α} :
    a ∈ unclaimed taken ↔ (a, none) ∈ taken := by
  simp only [unclaimed, List.mem_filterMap, Prod.exists]
  constructor
  · rintro ⟨x, b?, hmem, hx⟩
    cases b? <;> simp at hx
    exact hx ▸ hmem
  · intro hmem
    exact ⟨a, none, hmem, rfl⟩

/-- A pair is a claim that was met. -/
theorem mem_claimed {taken : List (α × Option β)} {a : α} {b : β} :
    (a, b) ∈ claimed taken ↔ (a, some b) ∈ taken := by
  simp only [claimed, List.mem_filterMap, Prod.exists]
  constructor
  · rintro ⟨x, b?, hmem, hx⟩
    cases b? <;> simp at hx
    obtain ⟨rfl, rfl⟩ := hx
    exact hmem
  · intro hmem
    exact ⟨a, some b, hmem, rfl⟩

/-- Pairs and leftovers come from the lists that were paired, each from its own side. -/
structure Within (paired : Pairing α) (base head : List α) : Prop where
  /-- A pair joins a base item and a head item. -/
  pairs : ∀ b h, (b, h) ∈ paired.pairs → b ∈ base ∧ h ∈ head
  /-- What is left of the base items is among them. -/
  base : ∀ b ∈ paired.base, b ∈ base
  /-- What is left of the head items is among them. -/
  head : ∀ h ∈ paired.head, h ∈ head

/-- A pairing of leftovers is a pairing within the lists they are left from. -/
theorem Within.trans {first second : Pairing α} {base head : List α}
    (hfirst : first.Within base head) (hsecond : second.Within first.base first.head) :
    second.Within base head where
  pairs b h hmem :=
    ⟨hfirst.base b (hsecond.pairs b h hmem).1, hfirst.head h (hsecond.pairs b h hmem).2⟩
  base b hmem := hfirst.base b (hsecond.base b hmem)
  head h hmem := hfirst.head h (hsecond.head h hmem)

/-- Pairs and leftovers of the first fit are items of the two lists. -/
theorem pairFirst_within (fits : α → α → Bool) (base head : List α) :
    (pairFirst fits base head).Within base head where
  pairs _ h hmem :=
    have hclaim := mem_claims (mem_claimed.1 hmem)
    ⟨hclaim.1, (hclaim.2 h rfl).1⟩
  base _ hmem := (mem_claims (mem_unclaimed.1 hmem)).1
  head _ hmem := mem_claims_left hmem

/-- Pairs and leftovers by a key are items of the two lists. -/
theorem pairBy_within {κ : Type w} [DecidableEq κ] (key : α → κ) (base head : List α) :
    (pairBy key base head).Within base head :=
  pairFirst_within _ base head

/-- Pairs and leftovers by position are items of the two lists. -/
theorem pairLocated_within {κ : Type v} {π : Type w} [DecidableEq κ] [DecidableEq π]
    (content : α → κ) (position : α → π) (base head : List α) :
    (pairLocated content position base head).Within base head :=
  (pairBy_within content base head).trans (pairBy_within position _ _)

/-- What is left together by key was left. -/
theorem mem_grouped {κ : Type w} [BEq κ] {key : α → κ} {items left : List α} {a : α}
    (h : a ∈ grouped key items left) : a ∈ left := by
  simp only [grouped, List.mem_flatMap, List.mem_filter] at h
  obtain ⟨_, _, hmem, _⟩ := h
  exact hmem

/-! ### Lists that agree item by item -/

section Agreeing

variable {γ : Type v} {f : α → γ} {xs ys : List α}

/-- Items at the same place of two lists agree when the lists do. -/
theorem eq_of_mem_zip (h : xs.map f = ys.map f) {x y : α} (hmem : (x, y) ∈ xs.zip ys) :
    f x = f y := by
  induction xs generalizing ys with
  | nil => cases hmem
  | cons a xs ih =>
    cases ys with
    | nil => cases hmem
    | cons b ys =>
      obtain ⟨hfirst, hrest⟩ := List.cons.inj h
      rcases List.mem_cons.1 hmem with heq | hmem
      · cases heq
        exact hfirst
      · exact ih hrest hmem

/-- What depends on the agreement alone agrees as well. -/
theorem map_eq_of_agree {κ : Type w} {key : α → κ} (hkey : ∀ x y, f x = f y → key x = key y)
    (h : xs.map f = ys.map f) : xs.map key = ys.map key := by
  induction xs generalizing ys with
  | nil =>
    rw [List.map_nil, eq_comm, List.map_eq_nil_iff] at h
    rw [h]
  | cons a xs ih =>
    cases ys with
    | nil => cases h
    | cons b ys =>
      obtain ⟨hfirst, hrest⟩ := List.cons.inj h
      rw [List.map_cons, List.map_cons, hkey a b hfirst, ih hrest]

/-- A condition that respects the agreement keeps the same places of both lists. -/
theorem map_filter_eq {p : α → Bool} (hp : ∀ x y, f x = f y → p x = p y)
    (h : xs.map f = ys.map f) : (xs.filter p).map f = (ys.filter p).map f := by
  induction xs generalizing ys with
  | nil =>
    rw [List.map_nil, eq_comm, List.map_eq_nil_iff] at h
    rw [h]
  | cons a xs ih =>
    cases ys with
    | nil => cases h
    | cons b ys =>
      obtain ⟨hfirst, hrest⟩ := List.cons.inj h
      rw [List.filter_cons, List.filter_cons, hp a b hfirst]
      split
      · rw [List.map_cons, List.map_cons, hfirst, ih hrest]
      · exact ih hrest

/-- The claims of a list on one that agrees with it item by item. `p` says which items make claims
at all; such an item fits its counterpart. What stands before the list in the pool, and every item
without claims, fits nobody. Then each item that makes claims takes its counterpart, because
whatever stands before that one in the pool does not fit. -/
theorem claims_of_map_eq (fits : α → α → Bool) {p : α → Bool}
    (hp : ∀ x y, f x = f y → p x = p y)
    (hfits : ∀ x y, f x = f y → p x = true → fits x y = true)
    (hidle : ∀ x y, p x = false → fits x y = false)
    (hleft : ∀ x y, p y = false → fits x y = false) (h : xs.map f = ys.map f)
    (front : List α) (hfront : ∀ y ∈ front, p y = false) :
    claims fits xs (front ++ ys) =
      ((xs.zip ys).map fun (x, y) => (x, if p x then some y else none),
        front ++ ys.filter (!p ·)) := by
  induction xs generalizing ys front with
  | nil =>
    rw [List.map_nil, eq_comm, List.map_eq_nil_iff] at h
    rw [h]
    rfl
  | cons x xs ih =>
    cases ys with
    | nil => cases h
    | cons y ys =>
      obtain ⟨hfirst, hrest⟩ := List.cons.inj h
      cases hx : p x
      · -- `x` claims nothing, so `y` stays in the pool and joins what stands before the rest.
        have hy : p y = false := (hp x y hfirst).symm.trans hx
        have htake : takeFirst? (fits x) (front ++ y :: ys) = none :=
          takeFirst?_eq_none fun z _ => hidle x z hx
        have hmore : ∀ z ∈ front ++ [y], p z = false := by
          intro z hz
          rcases List.mem_append.1 hz with hz | hz
          · exact hfront z hz
          · rw [List.mem_singleton.1 hz, hy]
        have hclaims := ih hrest (front ++ [y]) hmore
        rw [List.append_assoc, List.singleton_append] at hclaims
        rw [claims, htake]
        simp [hclaims, hx, hy]
      · have hy : p y = true := (hp x y hfirst).symm.trans hx
        have htake : takeFirst? (fits x) (front ++ y :: ys) = some (y, front ++ ys) := by
          rw [takeFirst?_append front _ fun z hz => hleft x z (hfront z hz), takeFirst?,
            if_pos (hfits x y hfirst hx)]
          rfl
        rw [claims, htake]
        simp [ih hrest front hfront, hx, hy]

/-- When every item fits its counterpart, it takes that one and nothing is left. -/
theorem claims_eq_zip {fits : α → α → Bool} (hfits : ∀ x y, f x = f y → fits x y = true)
    (h : xs.map f = ys.map f) :
    claims fits xs ys = ((xs.zip ys).map fun (x, y) => (x, some y), []) := by
  have hclaims := claims_of_map_eq (p := fun _ => true) fits (fun _ _ _ => rfl)
    (fun x y hxy _ => hfits x y hxy) nofun nofun h [] (by simp)
  rw [List.nil_append, List.nil_append] at hclaims
  rw [hclaims, show ys.filter (fun _ => !true) = [] from List.filter_eq_nil_iff.2 (by simp)]
  rfl

/-- The pairs among claims on counterparts. -/
theorem claimed_map (p : α → Bool) (pairs : List (α × α)) :
    claimed (pairs.map fun (x, y) => (x, if p x then some y else none)) =
      pairs.filter fun pair => p pair.1 := by
  induction pairs with
  | nil => rfl
  | cons pair pairs ih =>
    obtain ⟨x, y⟩ := pair
    rw [List.map_cons, claimed, List.filterMap_cons, List.filter_cons]
    dsimp only
    cases p x with
    | false => exact ih
    | true => exact congrArg ((x, y) :: ·) ih

/-- The items that make no claim on their counterpart. -/
theorem unclaimed_map (p : α → Bool) (pairs : List (α × α)) :
    unclaimed (pairs.map fun (x, y) => (x, if p x then some y else none)) =
      (pairs.map Prod.fst).filter (!p ·) := by
  induction pairs with
  | nil => rfl
  | cons pair pairs ih =>
    obtain ⟨x, y⟩ := pair
    rw [List.map_cons, unclaimed, List.filterMap_cons, List.map_cons, List.filter_cons]
    dsimp only
    cases p x with
    | false => exact congrArg (x :: ·) ih
    | true => exact ih

/-- Where everybody takes a counterpart, all are paired. -/
theorem claimed_some (pairs : List (α × α)) :
    claimed (pairs.map fun (x, y) => (x, some y)) = pairs :=
  (claimed_map (fun _ => true) pairs).trans (List.filter_eq_self.2 fun _ _ => rfl)

/-- Where everybody takes a counterpart, nobody is left. -/
theorem unclaimed_some (pairs : List (α × α)) :
    unclaimed (pairs.map fun (x, y) => (x, some y)) = [] :=
  (unclaimed_map (fun _ => true) pairs).trans (List.filter_eq_nil_iff.2 (by simp))

/-- By a key that agrees, two lists pair item by item. -/
theorem pairBy_eq_zip {κ : Type w} [DecidableEq κ] {key : α → κ}
    (h : xs.map key = ys.map key) : pairBy key xs ys = ⟨xs.zip ys, [], []⟩ := by
  unfold pairBy pairFirst
  rw [claims_eq_zip (f := key) (fun x y hxy => decide_eq_true hxy.symm) h]
  simp only [claimed_some, unclaimed_some]

/-- Whether the key of an item occurs exactly once on each side. -/
def isUnique {κ : Type w} [DecidableEq κ] (key : α → κ) (xs ys : List α) (item : α) : Bool :=
  decide (countKey key (key item) xs = 1) && decide (countKey key (key item) ys = 1)

/-- Whether an item is unique depends on its key alone. -/
theorem isUnique_congr {κ : Type w} [DecidableEq κ] {key : α → κ} {x y : α}
    (h : key x = key y) : isUnique key xs ys x = isUnique key xs ys y := by
  simp only [isUnique, h]

/-- Pairing by a unique key is the first fit under the condition that the key is unique. -/
theorem pairUnique_eq_pairFirst {κ : Type w} [DecidableEq κ] (key : α → κ) (xs ys : List α) :
    pairUnique key xs ys =
      pairFirst (fun b h => isUnique key xs ys b && decide (key h = key b)) xs ys :=
  rfl

/-- By unique keys that agree, counterparts pair where they are unique, and the others stay, on both
sides at the same places. -/
theorem pairUnique_eq_filter {κ : Type w} [DecidableEq κ] {key : α → κ}
    (h : xs.map key = ys.map key) :
    pairUnique key xs ys =
      ⟨(xs.zip ys).filter fun pair => isUnique key xs ys pair.1,
        xs.filter (!isUnique key xs ys ·), ys.filter (!isUnique key xs ys ·)⟩ := by
  let p := isUnique key xs ys
  have hp (x y : α) (hxy : key x = key y) : p x = p y := isUnique_congr hxy
  -- No other item fits a unique one, because it would have the same key.
  have hclaims := claims_of_map_eq (p := p)
    (fun b h => p b && decide (key h = key b)) hp
    (fun x y hxy hx => by simp [hx, hxy]) (fun x y hx => by simp [hx])
    (fun x y hy => by
      by_cases hxy : key y = key x
      · simp [← hp y x hxy, hy]
      · simp [hxy])
    h [] (by simp)
  rw [List.nil_append, List.nil_append] at hclaims
  have hlength : xs.length = ys.length := by
    rw [← List.length_map key, h, List.length_map]
  rw [pairUnique_eq_pairFirst, pairFirst, hclaims]
  dsimp only
  rw [claimed_map, unclaimed_map, List.map_fst_zip (Nat.le_of_eq hlength)]

/-- What agrees has the same unique keys on both sides, and the others stay at the same places. -/
theorem pairUnique_of_map_eq {κ : Type w} [DecidableEq κ] {key : α → κ}
    (hkey : ∀ x y, f x = f y → key x = key y) (h : xs.map f = ys.map f) :
    ∃ p : α → Bool, (∀ x y, f x = f y → p x = p y) ∧
      pairUnique key xs ys =
        ⟨(xs.zip ys).filter fun pair => p pair.1, xs.filter (!p ·), ys.filter (!p ·)⟩ :=
  ⟨isUnique key xs ys, fun x y hxy => isUnique_congr (hkey x y hxy),
    pairUnique_eq_filter (map_eq_of_agree hkey h)⟩

end Agreeing

end ChangeLens.Pairing

/-! ### Calls -/

namespace ChangeLens.Analyzer

open ChangeLens.Pairing

/-- A second pass over the leftovers stays within the two lists. -/
theorem andThen_within {α : Type} {first : Pairing α} {pass : List α → List α → Pairing α}
    {base head : List α} (hfirst : first.Within base head)
    (hpass : (pass first.base first.head).Within first.base first.head) :
    (andThen first pass).Within base head where
  pairs b h hmem := by
    rcases List.mem_append.1 hmem with hmem | hmem
    · exact hfirst.pairs b h hmem
    · exact (hfirst.trans hpass).pairs b h hmem
  base := (hfirst.trans hpass).base
  head := (hfirst.trans hpass).head

/-- The three passes over calls stay within the two lists. -/
theorem pairCalls_within (base head : List CallSite) : (pairCalls base head).Within base head := by
  have hunique : (pairUnique CallSite.callee base head).Within base head :=
    pairFirst_within _ base head
  have hexact := andThen_within hunique
    (pairBy_within (fun call : CallSite => (call.path, call.arguments)) _ _)
  have hpath := andThen_within hexact (pairBy_within CallSite.path _ _)
  exact andThen_within hpath
    (pairBy_within (fun call : CallSite => (CalleePath.suffix call.path, call.arguments)) _ _)

/-- A pass by a key that agrees on what is left pairs all of it. -/
theorem andThen_pairBy {α κ : Type} [DecidableEq κ] {key : α → κ} (pairs : List (α × α))
    {base head : List α} (h : base.map key = head.map key) :
    andThen ⟨pairs, base, head⟩ (pairBy key) = ⟨pairs ++ base.zip head, [], []⟩ := by
  show (⟨pairs ++ (pairBy key base head).pairs, (pairBy key base head).base,
    (pairBy key base head).head⟩ : Pairing α) = _
  rw [pairBy_eq_zip h]

/-- A pass over nothing pairs nothing. -/
theorem andThen_pairBy_nil {α κ : Type} [DecidableEq κ] (key : α → κ) (pairs : List (α × α)) :
    andThen ⟨pairs, [], []⟩ (pairBy key) = ⟨pairs, [], []⟩ := by
  rw [andThen_pairBy pairs rfl, List.zip_nil_left, List.append_nil]

/-- Calls that agree item by item pair with calls they agree with, and none is left. -/
theorem pairCalls_of_map_eq {γ : Type} {f : CallSite → γ} {base head : List CallSite}
    (hcallee : ∀ a b, f a = f b → a.callee = b.callee)
    (hexact : ∀ a b, f a = f b → (a.path, a.arguments) = (b.path, b.arguments))
    (h : base.map f = head.map f) :
    ∃ pairs, pairCalls base head = ⟨pairs, [], []⟩ ∧
      ∀ before after, (before, after) ∈ pairs → f before = f after := by
  obtain ⟨p, hp, hunique⟩ := pairUnique_of_map_eq hcallee h
  -- The second pass takes everything that is not unique, and leaves nothing to the other two.
  have hothers : (base.filter (!p ·)).map f = (head.filter (!p ·)).map f :=
    map_filter_eq (fun a b hab => congrArg (!·) (hp a b hab)) h
  have hkeys : (base.filter (!p ·)).map (fun call => (call.path, call.arguments)) =
      (head.filter (!p ·)).map fun call => (call.path, call.arguments) :=
    map_eq_of_agree hexact hothers
  refine ⟨(base.zip head).filter (fun pair => p pair.1) ++
    (base.filter (!p ·)).zip (head.filter (!p ·)), ?_, ?_⟩
  · unfold pairCalls
    simp only [hunique, andThen_pairBy _ hkeys, andThen_pairBy_nil]
  · intro before after hmem
    rcases List.mem_append.1 hmem with hmem | hmem
    · exact eq_of_mem_zip h (List.mem_filter.1 hmem).1
    · exact eq_of_mem_zip hothers hmem

end ChangeLens.Analyzer
