/-!
# `ChangeLens.Pairing`: matching the items of two versions

Matching is first come, first served: each item of one list in turn takes the first item left in the
other list that fits. `claims` is that process; `pairFirst`, `pairBy`, `pairUnique` and
`pairLocated` read pairs and leftovers off it. Nothing is lost and nothing is taken twice.
-/

set_option autoImplicit false

namespace ChangeLens

universe u v w

/-- Pairs of items of two versions, and what is left of each, in its own order. -/
structure Pairing (α : Type u) where
  /-- The pairs, in the order of the base items. -/
  pairs : List (α × α)
  /-- The base items without a partner. -/
  base : List α
  /-- The head items without a partner. -/
  head : List α

namespace Pairing

/-- Takes the first item that satisfies `p` out of a list. -/
def takeFirst? {α : Type u} (p : α → Bool) : List α → Option (α × List α)
  | [] => none
  | a :: rest =>
    if p a then some (a, rest) else (takeFirst? p rest).map fun (found, left) => (found, a :: left)

/-- Each item in turn takes the first item left in the pool that fits it. Answers every item with
what it took, and what is left in the pool. -/
def claims {α : Type u} {β : Type v} (fits : α → β → Bool) :
    List α → List β → List (α × Option β) × List β
  | [], pool => ([], pool)
  | a :: rest, pool =>
    match takeFirst? (fits a) pool with
    | some (b, left) =>
      let (more, left) := claims fits rest left
      ((a, some b) :: more, left)
    | none =>
      let (more, left) := claims fits rest pool
      ((a, none) :: more, left)

/-- The items that took nothing. -/
def unclaimed {α : Type u} {β : Type v} (taken : List (α × Option β)) : List α :=
  taken.filterMap fun (a, b?) => if b?.isNone then some a else none

/-- The items that took something, with what they took. -/
def claimed {α : Type u} {β : Type v} (taken : List (α × Option β)) : List (α × β) :=
  taken.filterMap fun (a, b?) => b?.map fun b => (a, b)

/-- Each base item in turn takes the first head item left that fits it. -/
def pairFirst {α : Type u} (fits : α → α → Bool) (base head : List α) : Pairing α :=
  let (taken, left) := claims fits base head
  ⟨claimed taken, unclaimed taken, left⟩

/-- Each base item in turn takes the first head item left with its key. -/
def pairBy {α : Type u} {κ : Type w} [DecidableEq κ] (key : α → κ) (base head : List α) :
    Pairing α :=
  pairFirst (fun b h => decide (key h = key b)) base head

/-- How many items have a key. -/
def countKey {α : Type u} {κ : Type w} [DecidableEq κ] (key : α → κ) (k : κ) (items : List α) :
    Nat :=
  items.countP fun item => decide (key item = k)

/-- Pairs the items whose key occurs exactly once on each side. -/
def pairUnique {α : Type u} {κ : Type w} [DecidableEq κ] (key : α → κ) (base head : List α) :
    Pairing α :=
  let isUnique (item : α) :=
    decide (countKey key (key item) base = 1) && decide (countKey key (key item) head = 1)
  pairFirst (fun b h => isUnique b && decide (key h = key b)) base head

/-- Items of equal content are taken out first, wherever they moved; the rest pairs by position. -/
def pairLocated {α : Type u} {κ : Type v} {π : Type w} [DecidableEq κ] [DecidableEq π]
    (content : α → κ) (position : α → π) (base head : List α) : Pairing α :=
  let moved := pairBy content base head
  pairBy position moved.base moved.head

/-- What is left of some items, together by key, in the order in which the keys first occur. -/
def grouped {α : Type u} {κ : Type w} [BEq κ] (key : α → κ) (items left : List α) : List α :=
  (items.map key).eraseDups.flatMap fun k => left.filter fun item => key item == k

/-- Whether two lists hold the same items equally often. -/
def sameItems {α : Type u} [BEq α] (a b : List α) : Bool :=
  a.isPerm b

/-- Whether two lists hold the same items in the same order. -/
def sameOrder {α : Type u} [DecidableEq α] (a b : List α) : Bool :=
  decide (a = b)

end Pairing

end ChangeLens
